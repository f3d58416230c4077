import Interrupts.Proofs.Acpi.Search
import Interrupts.Proofs.Processor.Calls

/-!
# Who is started

Which processors bring-up starts is decided by the bytes of the interrupt topology table. Its usable
Local APICs are collected with searches, the boot processor and those that are listed already are
passed over, and the table of processors takes the others as long as there is room. Bring-up then
prepares each of them once, in the order of the table.

`roster` is what comes out of this, as a list: the first 63 distinct APIC ids other than the boot
processor's. The index that a processor is told is its place in that list.
-/

namespace Interrupts

/-! ## The entries that count -/

namespace Acpi.Madt

/-- **The entry lists a processor that can be started**: it describes a Local APIC, it is long
enough for that, and one of the lowest two bits of its flags is set. -/
def IsListed (t : Madt) (r : RawEntry) : Prop :=
  r.entryType = 0 ∧ 8 ≤ r.length
    ∧ ((t.bytes.field (r.offset + 4) 4).testBit 0 = true
      ∨ (t.bytes.field (r.offset + 4) 4).testBit 1 = true)

instance (t : Madt) (r : RawEntry) : Decidable (t.IsListed r) :=
  inferInstanceAs (Decidable (_ ∧ _))

/-- The APIC id in the entry of a Local APIC. -/
def apicIdAt (t : Madt) (r : RawEntry) : UInt32 :=
  UInt32.ofNat (t.bytes.field (r.offset + 3) 1)

/-- **The APIC ids of the processors that some entries list**, in order. -/
def listedIds (t : Madt) (rs : List RawEntry) : List UInt32 :=
  (rs.filter fun r => t.IsListed r).map t.apicIdAt

/-- The identifiers listed by two stretches of entries, one after another. -/
theorem listedIds_append (t : Madt) (rs rs' : List RawEntry) :
    t.listedIds (rs ++ rs') = t.listedIds rs ++ t.listedIds rs' := by
  unfold listedIds
  rw [List.filter_append, List.map_append]

/-- An entry in front lists its identifier if it is usable, and nothing otherwise. -/
theorem listedIds_cons (t : Madt) (r : RawEntry) (rs : List RawEntry) :
    t.listedIds (r :: rs)
      = if t.IsListed r then t.apicIdAt r :: t.listedIds rs else t.listedIds rs := by
  unfold listedIds
  rw [List.filter_cons]
  simp only [decide_eq_true_eq]
  split <;> rfl

/-- The lowest two bits of the flags decide. -/
theorem isUsable_iff {n : Nat} (h : n < 4294967296) (processorId apicId : UInt8) :
    LocalApicInfo.isUsable { processorId, apicId, flags := UInt32.ofNat n } = true
      ↔ n.testBit 0 = true ∨ n.testBit 1 = true := by
  have hflags : (UInt32.ofNat n &&& 3).toNat = n % 4 := by
    rw [UInt32.toNat_and, UInt32.toNat_ofNat_of_lt' h]
    exact Nat.and_two_pow_sub_one_eq_mod n 2
  rw [LocalApicInfo.isUsable, bne_iff_ne, ne_eq, ← UInt32.toNat_inj, hflags,
    Nat.testBit_zero, Nat.testBit_succ, Nat.testBit_zero, decide_eq_true_eq, decide_eq_true_eq]
  show ¬n % 4 = 0 ↔ _
  omega

/-- What is read at an entry that was searched for. -/
theorem usableId?_parseEntry (t : Madt) {r : RawEntry} (htype : r.entryType = 0)
    (hlong : 8 ≤ r.length) :
    PlatformTables.usableId? (t.parseEntry r)
      = if t.IsListed r then some (t.apicIdAt r) else none := by
  have hparse : t.parseEntry r = .localApic
      { processorId := UInt8.ofNat (t.bytes.field (r.offset + 2) 1)
        apicId := UInt8.ofNat (t.bytes.field (r.offset + 3) 1)
        flags := UInt32.ofNat (t.bytes.field (r.offset + 4) 4) } := by
    unfold parseEntry
    rw [if_pos ⟨htype, hlong⟩, Bytes.field_drop, Bytes.field_drop, Bytes.field_drop]
  -- the identifier is one byte of the entry, widened to a word
  have hid : (UInt8.ofNat (t.bytes.field (r.offset + 3) 1)).toUInt32 = t.apicIdAt r := by
    have hlt : t.bytes.field (r.offset + 3) 1 < 256 := Bytes.field_lt _ _ _
    rw [apicIdAt, ← UInt32.toNat_inj, UInt8.toNat_toUInt32, UInt8.toNat_ofNat_of_lt' hlt,
      UInt32.toNat_ofNat_of_lt' (Nat.lt_trans hlt (by decide))]
  have husable := isUsable_iff (Bytes.field_lt t.bytes (r.offset + 4) 4)
    (UInt8.ofNat (t.bytes.field (r.offset + 2) 1)) (UInt8.ofNat (t.bytes.field (r.offset + 3) 1))
  rw [hparse, PlatformTables.usableId?, hid]
  exact if_congr (husable.trans ⟨fun h => ⟨htype, hlong, h⟩, fun h => h.2.2⟩) rfl rfl

/-- **The ids that the searches collect** are those that the entries of the table list. -/
theorem usableApicIds_eq (t : Madt) (model : InterruptModel) :
    PlatformTables.usableApicIds ({ madt := some t, model } : MadtPlatform)
      = t.listedIds t.raws := by
  rw [PlatformTables.usableApicIds,
    t.entriesOf_eq model ⟨MadtEntry.localApicType, MadtEntry.localApicLength⟩]
  generalize t.raws = rs
  induction rs with
  | nil => rfl
  | cons r rs ih =>
    rw [listedIds_cons, List.filter_cons]
    -- the query picks the entries by type and length, and the parser then looks at the flags
    cases hwants : Query.wants ⟨MadtEntry.localApicType, MadtEntry.localApicLength⟩ r with
    | true =>
      obtain ⟨htype, hlong⟩ := of_decide_eq_true hwants
      rw [if_pos rfl, List.map_cons, List.filterMap_cons, usableId?_parseEntry t htype hlong, ih]
      by_cases hlisted : t.IsListed r
      · rw [if_pos hlisted, if_pos hlisted]
      · rw [if_neg hlisted, if_neg hlisted]
    | false =>
      have hother : ¬t.IsListed r := fun h => of_decide_eq_false hwants ⟨h.1, h.2.1⟩
      rw [if_neg hother, if_neg Bool.false_ne_true, ih]

end Acpi.Madt

/-! ## The roster -/

/-- **The processors that there is room for besides the boot processor**: the first 63 distinct ids
that are not its own, each where it appears first. -/
def roster (boot : UInt32) (ids : List UInt32) : List UInt32 :=
  ((ids.filter fun id => id ≠ boot).eraseDups).take 63

section Roster

variable {boot id : UInt32} {before after : List UInt32}

/-- An entry for the boot processor adds nobody. -/
theorem roster_of_boot (h : id = boot) :
    roster boot (before ++ id :: after) = roster boot (before ++ after) := by
  unfold roster
  rw [List.filter_append, List.filter_append, List.filter_cons_of_neg (by simp [h])]

/-- An identifier that was listed before adds nobody. -/
theorem roster_of_mem (h : id ∈ before) :
    roster boot (before ++ id :: after) = roster boot (before ++ after) := by
  by_cases hboot : id = boot
  · exact roster_of_boot hboot
  · have hmem : id ∈ before.filter fun id => id ≠ boot := by simp [h, hboot]
    unfold roster
    rw [List.filter_append, List.filter_append, List.filter_cons_of_pos (by simp [hboot]),
      List.eraseDups_append, List.eraseDups_append]
    unfold List.removeAll
    rw [List.filter_cons_of_neg (by simpa using hmem)]

/-- A full roster stays as it is. -/
theorem roster_of_full {more : List UInt32} (h : 63 ≤ (roster boot before).length) :
    roster boot (before ++ more) = roster boot before := by
  unfold roster at h ⊢
  rw [List.length_take] at h
  rw [List.filter_append, List.eraseDups_append,
    List.take_append_of_le_length (Nat.le_trans h (Nat.min_le_right _ _))]

end Roster

/-- **An entry that starts nobody**, after some others. -/
inductive Acpi.Madt.Redundant (t : Madt) (boot : UInt32) (before : List RawEntry) (r : RawEntry) :
    Prop
  /-- It is not usable, too short, or no Local APIC's at all. -/
  | unlisted (unlisted : ¬t.IsListed r) : Redundant t boot before r
  /-- It is the boot processor's. -/
  | boot (same : t.apicIdAt r = boot) : Redundant t boot before r
  /-- Its processor was listed before. -/
  | duplicate {r' : RawEntry} (earlier : r' ∈ before) (listed : t.IsListed r')
      (same : t.apicIdAt r' = t.apicIdAt r) : Redundant t boot before r
  /-- There is no room any more. -/
  | beyond (full : 63 ≤ (roster boot (t.listedIds before)).length) : Redundant t boot before r

/-- **Such an entry starts, shifts and drops nobody**: without it the roster is the same. -/
theorem Acpi.Madt.Redundant.roster_eq {t : Madt} {boot : UInt32} {before after : List RawEntry}
    {r : RawEntry} (h : t.Redundant boot before r) :
    roster boot (t.listedIds (before ++ r :: after))
      = roster boot (t.listedIds (before ++ after)) := by
  rw [listedIds_append, listedIds_append, listedIds_cons]
  by_cases hlisted : t.IsListed r
  · rw [if_pos hlisted]
    cases h with
    | unlisted hunlisted => exact absurd hlisted hunlisted
    | boot hsame => exact roster_of_boot hsame
    | duplicate hearlier hlisted' hsame =>
      refine roster_of_mem (List.mem_map.mpr ⟨_, List.mem_filter.mpr ⟨hearlier, ?_⟩, hsame⟩)
      exact decide_eq_true hlisted'
    | beyond hfull => rw [roster_of_full hfull, roster_of_full hfull]
  · rw [if_neg hlisted]

/-! ## Discovery -/

namespace ProcessorTable

/-- An identifier has no index when it is not in the table. -/
theorem indexOf?_eq_none {t : ProcessorTable} {id : UInt32} :
    t.indexOf? id = none ↔ id ∉ t.ids := by
  rw [indexOf?, List.findIdx?_eq_none_iff]
  simp only [ids, List.mem_map, not_exists, not_and, beq_eq_false_iff_ne]

/-- A processor at the end of the table. -/
theorem ids_append (t : ProcessorTable) (id : UInt32) :
    ids ⟨t.cpus ++ [{ apicId := id }]⟩ = t.ids ++ [id] :=
  List.map_append

/-- **What registering appends**: the new ids, each once, as long as there is room. -/
theorem cpus_registerAll (t : ProcessorTable) (others : List UInt32) :
    (t.registerAll others).2.cpus
      = t.cpus ++ (((others.filter fun id => id ∉ t.ids).eraseDups).take (capacity - t.size)).map
        fun id => { apicId := id } := by
  induction others generalizing t with
  | nil => simp [registerAll]
  | cons id others ih =>
    unfold registerAll register
    cases hindex : t.indexOf? id with
    | some index =>
      have hlisted : ¬id ∉ t.ids := fun h => nomatch hindex.symm.trans (indexOf?_eq_none.mpr h)
      rw [List.filter_cons_of_neg (by simpa using hlisted)]
      exact ih t
    | none =>
      have hnew : id ∉ t.ids := indexOf?_eq_none.mp hindex
      rw [List.filter_cons_of_pos (by simpa using hnew), List.eraseDups_cons]
      dsimp only
      by_cases hroom : t.size < capacity
      · -- The id takes one place, and is not new from now on.
        rw [if_pos hroom]
        dsimp only
        have hsize : capacity - t.size
            = capacity - size ⟨t.cpus ++ [{ apicId := id }]⟩ + 1 := by
          have hnext : size ⟨t.cpus ++ [{ apicId := id }]⟩ = t.size + 1 := by
            rw [size, List.length_append, List.length_singleton, size]
          omega
        have hlater : (others.filter fun id' => id' ∉ ids ⟨t.cpus ++ [{ apicId := id }]⟩)
            = (others.filter fun id' => id' ∉ t.ids).filter fun id' => !id' == id := by
          rw [List.filter_filter]
          refine List.filter_congr fun id' _ => ?_
          rw [ids_append, Bool.eq_iff_iff]
          simp [and_comm]
        rw [ih, hsize, List.take_succ_cons, List.map_cons, hlater, List.append_assoc]
        rfl
      · rw [if_neg hroom]
        dsimp only
        rw [ih, Nat.sub_eq_zero_of_le (Nat.le_of_not_lt hroom), List.take_zero, List.take_zero]

/-- **What is discovered on a fresh table**: the boot processor, and then the roster. -/
theorem cpus_discover (boot : UInt32) (others : List UInt32) :
    (({} : ProcessorTable).discover boot others).2.cpus
      = { apicId := boot, started := true, state := .started }
        :: (roster boot others).map fun id => { apicId := id } := by
  have hboot : ({} : ProcessorTable).registerBoot boot
      = ⟨[{ apicId := boot, started := true, state := .started }]⟩ := rfl
  rw [discover, hboot, cpus_registerAll]
  simp only [ids, size, capacity, roster, List.map_cons, List.map_nil, List.mem_singleton,
    List.length_singleton, List.singleton_append]

variable {boot : UInt32} {listed : List UInt32} {t : ProcessorTable}
  (ht : t.cpus = { apicId := boot, started := true, state := .started }
    :: listed.map fun id => { apicId := id })

include ht

theorem size_of_cpus : t.size = 1 + listed.length := by
  rw [size, ht, List.length_cons, List.length_map, Nat.add_comm]

theorem ids_of_cpus : t.ids = boot :: listed := by
  rw [ids, ht, List.map_cons, List.map_map]
  exact congrArg (boot :: ·) (List.map_id listed)

/-- Everybody but the boot processor is pending. -/
theorem pending_of_cpus : t.pending = List.range' 1 listed.length := by
  rw [pending, size_of_cpus ht, Nat.add_sub_cancel_left]
  refine List.filter_eq_self.mpr fun j hj => ?_
  obtain ⟨hlow, hhigh⟩ := List.mem_range'_1.mp hj
  obtain ⟨i, rfl⟩ : ∃ i, j = i + 1 := ⟨j - 1, by omega⟩
  have hi : i < listed.length := by omega
  refine decide_eq_true (state?_eq_some.mpr ⟨{ apicId := listed[i] }, ?_, rfl⟩)
  rw [get?, ht, List.getElem?_cons_succ, List.getElem?_map, List.getElem?_eq_getElem hi]
  rfl

end ProcessorTable

/-! ## Bring-up -/

/-- The processor that a call prepares, and the position it is told. -/
def ApCall.prepares? : ApCall → Option (UInt32 × Nat)
  | .prepare i id _ => some (id, i)
  | _ => none

/-- **The processors that are prepared**, in order, with the positions they are told. -/
def prepared (xs : List ApStep) : List (UInt32 × Nat) :=
  xs.filterMap fun x => x.call.prepares?

/-- The prepared processors are read off the calls. -/
theorem prepared_eq (xs : List ApStep) :
    prepared xs = (xs.map ApStep.call).filterMap ApCall.prepares? := by
  rw [List.filterMap_map]
  rfl

theorem prepared_append (xs ys : List ApStep) : prepared (xs ++ ys) = prepared xs ++ prepared ys :=
  List.filterMap_append

section Words

variable {cfg : BringUpConfig} {i : Nat} {id : UInt32} {w : List ApStep}

/-- An attempt prepares nobody. -/
theorem Attempt.prepared {relaxes : Nat} {seen : Bool} (h : Attempt cfg i id relaxes seen w) :
    prepared w = [] := by
  rw [prepared_eq, h.calls]
  refine List.filterMap_eq_nil_iff.mpr fun c hc => ?_
  simp only [List.mem_cons, List.mem_replicate] at hc
  rcases hc with rfl | rfl | ⟨-, rfl⟩ <;> rfl

/-- A list of attempts prepares nobody. -/
theorem prepared_flatten {relaxes : Nat} {silent : List (List ApStep)}
    (h : ∀ w ∈ silent, Attempt cfg i id relaxes false w) : prepared silent.flatten = [] := by
  refine List.filterMap_eq_nil_iff.mpr fun x hx => ?_
  obtain ⟨w, hw, hxw⟩ := List.mem_flatten.mp hx
  exact List.filterMap_eq_nil_iff.mp (h w hw).prepared x hxw

/-- The last attempt prepares nobody either. -/
theorem Ending.prepared {most n : Nat} {online : Bool} (h : Ending cfg i id most n online w) :
    prepared w = [] := by
  cases h with
  | answered _ _ attempt => exact attempt.prepared
  | refused _ calls =>
    rw [prepared_eq, calls]
    rfl
  | exhausted => rfl

/-- **The calls for one processor prepare it once**, and nobody else. -/
theorem CallWord.prepared {online : Bool} (h : CallWord cfg i id online w) :
    prepared w = [(id, i)] := by
  cases h with
  | unprepared calls =>
    rw [prepared_eq, calls]
    rfl
  | unreset calls =>
    rw [prepared_eq, calls]
    rfl
  | online resets silences ends =>
    rw [prepared_append, prepared_append, prepared_flatten silences, ends.prepared, prepared_eq,
      resets]
    rfl
  | @parked reset last silent parking answer resets silences ends parks =>
    have hparking : Interrupts.prepared [parking] = [] := by
      rw [prepared_eq, List.map_singleton, parks]
      rfl
    rw [prepared_append, prepared_append, prepared_append, prepared_flatten silences, ends.prepared,
      hparking, prepared_eq, resets]
    rfl

end Words

/-- **Words prepare their processors**, one each. -/
theorem prepared_words {cfg : BringUpConfig} {t t' : ProcessorTable} {listed : List UInt32}
    {start : Nat} {words : List (List ApStep)} (hids : t.ids.drop start = listed)
    (h : List.Forall₂ (IsWordAt cfg t t') (List.range' start listed.length) words) :
    prepared words.flatten = listed.zipIdx start := by
  induction listed generalizing start words with
  | nil =>
    cases h
    rfl
  | cons id listed ih =>
    rw [List.length_cons, List.range'_succ] at h
    obtain _ | ⟨⟨id', online, hid', hcalls, -⟩, hrest⟩ := h
    have hid : t.ids[start]? = some id := by
      rw [← List.head?_drop, hids, List.head?_cons]
    -- word by word, the identifiers from `start` on are the ones still to come
    have hlater : t.ids.drop (start + 1) = listed := by
      rw [← List.tail_drop, hids, List.tail_cons]
    cases hid.symm.trans hid'
    rw [List.flatten_cons, prepared_append, hcalls.calls.prepared, ih hlater hrest,
      List.zipIdx_cons, List.singleton_append]

/-- **Bring-up after discovery prepares the listed processors**, and is done at once when there are
none. -/
theorem Course.prepared {cfg : BringUpConfig} {t t' : ProcessorTable} {ms : List ApMove}
    {outcome : BringUp} {boot : UInt32} {listed : List UInt32} (h : Course cfg t ms outcome t')
    (hquiet : t.Quiet)
    (ht : t.cpus = { apicId := boot, started := true, state := .started }
      :: listed.map fun id => { apicId := id }) :
    prepared (steps ms) = listed.zipIdx 1
      ∧ (listed = [] → outcome = .singleProcessor ∧ steps ms = []) := by
  constructor
  · obtain ⟨words, hsteps, hwords⟩ := h.inWords hquiet
    rw [ProcessorTable.pending_of_cpus ht] at hwords
    rw [hsteps]
    refine prepared_words ?_ hwords
    rw [ProcessorTable.ids_of_cpus ht, List.drop_one, List.tail_cons]
  · rintro rfl
    cases h with
    | alone few reports => exact ⟨rfl, List.map_eq_nil_iff.mp reports.calls⟩
    | swept several sweep reports =>
      rw [ProcessorTable.size_of_cpus ht] at several
      exact absurd several (by decide)

/-! ## Discovery and bring-up -/

/-- Lines change neither the table nor what the environment remembers. -/
theorem ApSceneM.logAll_ok {W : Type} (lines : List Record) (s : ApScene W) :
    ∃ s', (logAll lines : ApSceneM W Unit) s = .ok () s' ∧ s'.table = s.table
      ∧ s'.world = s.world := by
  induction lines generalizing s with
  | nil => exact ⟨s, rfl, rfl, rfl⟩
  | cons line lines ih =>
    obtain ⟨s', hrun, htable, hworld⟩ :=
      ih { s with journal := s.journal ++ [⟨.line, s.table, s.table⟩] }
    exact ⟨s', hrun, htable, hworld⟩

/-- **Discovery records the boot processor and the roster**, and answers how many there are. -/
theorem discoverHere_ok {W : Type} (boot : UInt32) (others : List UInt32) (w : W) :
    ∃ s, (ProcessorTable.discoverHere boot others : ApSceneM W Nat) { world := w, table := {} }
        = .ok (1 + (roster boot others).length) s
      ∧ s.table = (({} : ProcessorTable).discover boot others).2 ∧ s.world = w := by
  obtain ⟨s, hrun, htable, hworld⟩ := ApSceneM.logAll_ok
    ((({} : ProcessorTable).discover boot others).1.map ProcessorTable.ignoredLine)
    { world := w, table := (({} : ProcessorTable).discover boot others).2,
      journal := [⟨.store, {}, (({} : ProcessorTable).discover boot others).2⟩] }
  refine ⟨s, ?_, htable, hworld⟩
  rw [← ProcessorTable.size_of_cpus (ProcessorTable.cpus_discover boot others)]
  exact bind_of_ok hrun

/-- **Exactly the right processors are started.** Discovery on a fresh table, with the ids that the
interrupt topology table gives, records the boot processor and after it the roster: the first 63
distinct ids of its usable Local APICs, the boot processor's aside. Bring-up then prepares each of
these once, in that order and at these positions, and nobody else; when there are none it asks the
hardware for nothing. And an entry that is not usable, too short, listed before, the boot
processor's or beyond the capacity leaves the roster as it would be without that entry. -/
theorem discover_bringUp_roster {W : Type} (t : Acpi.Madt) (model : Acpi.InterruptModel)
    (boot : UInt32) (env : ApEnvironment W) (cfg : BringUpConfig) (w : W) :
    let p : Acpi.MadtPlatform := { madt := some t, model }
    let others := roster boot (t.listedIds t.raws)
    (∃ s, (ProcessorTable.discoverHere boot (Acpi.PlatformTables.usableApicIds p) : ApSceneM W Nat)
          { world := w, table := {} } = .ok (1 + others.length) s
        ∧ s.table.cpus = { apicId := boot, started := true, state := .started }
            :: others.map (fun id => { apicId := id, started := false, state := .discovered })
        ∧ let (outcome, s') := env.bringUp cfg s.world s.table
          prepared s'.steps = others.zipIdx 1
            ∧ (others = [] → outcome = .singleProcessor ∧ s'.steps = []))
      ∧ ∀ before r after, t.raws = before ++ r :: after → t.Redundant boot before r →
          roster boot (t.listedIds (before ++ after)) = others := by
  dsimp only
  rw [t.usableApicIds_eq model]
  refine ⟨?_, fun before r after hraws hredundant => ?_⟩
  · obtain ⟨s, hrun, htable, -⟩ := discoverHere_ok boot (t.listedIds t.raws) w
    have hcpus := ProcessorTable.cpus_discover boot (t.listedIds t.raws)
    rw [← htable] at hcpus
    have hempty : ({} : ProcessorTable).Quiet := ProcessorTable.ensureQuiescent_eq_ok.mp rfl
    have hquiet : s.table.Quiet := htable ▸ hempty.discover boot (t.listedIds t.raws)
    exact ⟨s, hrun, hcpus, (env.bringUp_course cfg s.world s.table).1.prepared hquiet hcpus⟩
  · rw [hraws, hredundant.roster_eq]

end Interrupts
