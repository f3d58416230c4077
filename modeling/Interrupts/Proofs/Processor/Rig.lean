import Interrupts.Proofs.Processor.Sequence

/-!
# Bring-up against any environment

An `ApEnvironment` decides everything that bring-up leaves to the hardware and to the processors:
how each call is answered, which processors raise their flags meanwhile, and what it remembers for
the next call. It may look at the table to do so. `ApEnvironment.bringUp` runs bring-up against it
and keeps a journal of all moves, and the journal is a `Course`.
-/

namespace Interrupts

/-- **What comes of one call**: the answer, the positions of the processors that raised their flags
meanwhile, and the world afterwards. -/
structure ApReply (W α : Type) where
  answer : α
  /-- Who raised a flag meanwhile, by position. -/
  raised : List Nat
  world : W

/-- **An environment of bring-up**, with a memory of type `W`. -/
structure ApEnvironment (W : Type) where
  /-- A stack and parameters for a processor, if there is room for them. -/
  prepare : (index : Nat) → (apicId : UInt32) → ProcessorTable → W →
    ApReply W (Except BringUpError Unit)
  /-- An INIT, which the controller may fail to deliver. -/
  sendInit : (apicId : UInt32) → ProcessorTable → W → ApReply W (Except BringUpError Unit)
  /-- A STARTUP, which it may fail to deliver as well. -/
  sendStartup : (apicId : UInt32) → (page : UInt8) → ProcessorTable → W →
    ApReply W (Except BringUpError Unit)
  /-- Time passes, and processors may start in it. -/
  delay : (microseconds : UInt32) → ProcessorTable → W → ApReply W Unit
  relax : ProcessorTable → W → ApReply W Unit

/-- **The environment's memory, the table, and the moves so far.** -/
structure ApScene (W : Type) where
  world : W
  table : ProcessorTable
  journal : List ApMove := []

/-- The monad of bring-up against an environment; nothing stops it. -/
abbrev ApSceneM (W : Type) := EStateM Empty (ApScene W)

namespace ApSceneM

variable {W α : Type}

/-- A call that the environment answers. -/
def ask (reply : ProcessorTable → W → ApReply W α) (act : α → ApAct) : ApSceneM W α := fun s =>
  let r := reply s.table s.world
  let t := r.raised.foldl ProcessorTable.markStarted s.table
  .ok r.answer
    { world := r.world, table := t, journal := s.journal ++ [⟨act r.answer, s.table, t⟩] }

/-- A write to the table, or a line that is logged. -/
def write (act : ApAct) (f : ProcessorTable → α × ProcessorTable) : ApSceneM W α := fun s =>
  let (a, t) := f s.table
  .ok a { s with table := t, journal := s.journal ++ [⟨act, s.table, t⟩] }

instance : Logger (ApSceneM W) where
  log _ _ := write .line fun t => ((), t)

instance : MonadStateOf ProcessorTable (ApSceneM W) where
  get := fun s => .ok s.table s
  set t := write .store fun _ => (⟨⟩, t)
  modifyGet f := write .store f

instance : ApControl (ApEnvironment W) (ApSceneM W) where
  prepare env i id := ask (env.prepare i id) fun answer => .call (.prepare i id answer)
  sendInit env id := ask (env.sendInit id) fun answer => .call (.init id answer)
  sendStartup env id page :=
    ask (env.sendStartup id page) fun answer => .call (.startup id page answer)
  delay env us := ask (env.delay us) fun _ => .call (.delay us)
  relax env := ask env.relax fun _ => .call .relax

/-- The journal grew by these moves, and no line changed the table. -/
def Notes (s : ApScene W) (ms : List ApMove) (s' : ApScene W) : Prop :=
  s'.journal = s.journal ++ ms ∧ ∀ m ∈ ms, m.act = .line → m.after = m.before

/-- The scene's own table and journal. -/
def track : Track Empty (ApScene W) where
  table := ApScene.table
  notes := Notes
  notes_nil := fun _ => ⟨(List.append_nil _).symm, fun _ hm => absurd hm List.not_mem_nil⟩
  notes_append := fun h h' => ⟨by rw [h'.1, h.1, List.append_assoc], fun m hm =>
    (List.mem_append.mp hm).elim (h.2 m) (h'.2 m)⟩
  stops := fun _ => False

/-- A question to the surroundings is one move, with the answer in its call. -/
theorem ask_oneMove (reply : ProcessorTable → W → ApReply W α) (c : α → ApCall) :
    track.OneMove (ask reply fun a => .call (c a)) fun a => .call (c a) := by
  refine ⟨?_, fun {_ e _} _ => nomatch e⟩
  rintro s a s' ⟨⟩
  refine ⟨ProcessorTable.raises_foldl ProcessorTable.raises_markStarted _ _, rfl,
    fun m hm hline => ?_⟩
  rw [List.mem_singleton.mp hm] at hline
  exact nomatch hline

/-- **Bring-up can be followed through the scene.** -/
def tracked : Tracked (ApEnvironment W) Empty (ApScene W) where
  toTrack := track
  get := fun _ => rfl
  store := fun i st s => by
    refine ⟨_, rfl, rfl, rfl, fun m hm hline => ?_⟩
    rw [List.mem_singleton.mp hm] at hline
    exact nomatch hline
  line := fun level text => by
    refine ⟨?_, fun {_ e _} _ => nomatch e⟩
    rintro s u s' ⟨⟩
    exact ⟨.refl _, rfl, fun m hm _ => by rw [List.mem_singleton.mp hm]; rfl⟩
  prepare := fun _ _ _ => ask_oneMove _ _
  sendInit := fun _ _ => ask_oneMove _ _
  sendStartup := fun _ _ _ => ask_oneMove _ _
  delay := fun _ _ => ask_oneMove _ _
  relax := fun _ => ask_oneMove _ _

end ApSceneM

/-- **Bring-up against an environment**: its outcome, and the scene it leaves. -/
def ApEnvironment.bringUp {W : Type} (env : ApEnvironment W) (cfg : BringUpConfig) (w : W)
    (t : ProcessorTable) : BringUp × ApScene W :=
  match (BringUp.run env cfg : ApSceneM W BringUp) { world := w, table := t } with
  | .ok outcome s => (outcome, s)
  | .error e _ => nomatch e

/-- **The journal of bring-up is a course**, and logging a line changes nothing. -/
theorem ApEnvironment.bringUp_course {W : Type} (env : ApEnvironment W) (cfg : BringUpConfig)
    (w : W) (t : ProcessorTable) :
    Course cfg t (env.bringUp cfg w t).2.journal (env.bringUp cfg w t).1
        (env.bringUp cfg w t).2.table
      ∧ ∀ m ∈ (env.bringUp cfg w t).2.journal, m.act = .line → m.after = m.before := by
  unfold bringUp
  cases hrun : (BringUp.run env cfg : ApSceneM W BringUp) { world := w, table := t } with
  | ok outcome s =>
    obtain ⟨ms, ⟨hjournal, hlines⟩, hcourse⟩ := ApSceneM.tracked.run_course hrun
    rw [show s.journal = ms from hjournal]
    exact ⟨hcourse, hlines⟩
  | error e s => exact nomatch e

end Interrupts
