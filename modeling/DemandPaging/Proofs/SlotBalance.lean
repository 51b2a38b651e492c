import DemandPaging.Proofs.SwapContents
import Mathlib.Data.Finset.Card
import Mathlib.Data.List.Nodup

/-!
# The balance of slots

Every slot of an open swap area belongs to one page, is free, or was handed
out without a page, and the file is exactly as long as its slots.  As long as
the device runs into no trouble, requests to an open area are therefore never
refused without a reason.
-/

namespace DemandPaging

namespace SwapArea

variable {Key : Type} {pageSize : Nat} [DecidableEq Key]

/-- The slots below the slot count are the bound, the free and the handed out
ones, no slot is two of these, and the file consists of just these slots. -/
structure Balanced (area : SwapArea Key pageSize) (volume : Volume) (handedOut : Finset Nat) :
    Prop extends area.Intact volume where
  present : area.disk.file < volume.files.size
  fileLength_eq : area.fileLength volume = area.slotCount * pageSize
  lt_slotCount_iff : ∀ slot, slot < area.slotCount ↔
    (∃ key, area.slotOf? key = some slot) ∨ slot ∈ area.freeSlots.slots ∨ slot ∈ handedOut
  nobodys : ∀ slot ∈ handedOut, ∀ key, area.slotOf? key ≠ some slot
  notFree : ∀ slot ∈ handedOut, slot ∉ area.freeSlots.slots

/-- Where a slot that is asked for comes from. -/
inductive Draws (area : SwapArea Key pageSize) (volume : Volume) (slot : Nat)
    (next : SwapArea Key pageSize) (grown : Volume) : Prop
  /-- The lowest free slot is taken, and the file is left alone. -/
  | reuse (free : slot ∈ area.freeSlots.slots)
      (lowest : ∀ other ∈ area.freeSlots.slots, slot ≤ other)
      (slotCount : next.slotCount = area.slotCount)
      (fileLength : next.fileLength grown = area.fileLength volume)
  /-- No slot is free, and the file grows by one slot at its end. -/
  | extend (full : area.freeSlots.slots = [])
      (last : slot = area.slotCount)
      (slotCount : next.slotCount = area.slotCount + 1)
      (fileLength : next.fileLength grown = area.fileLength volume + pageSize)

/-- What a request for a slot does to a balanced area. -/
structure Allocates (area : SwapArea Key pageSize) (volume : Volume) (handedOut : Finset Nat)
    (slot : Nat) (next : SwapArea Key pageSize) (grown : Volume) : Prop where
  draws : area.Draws volume slot next grown
  fresh : slot ∉ handedOut
  balanced : next.Balanced grown (insert slot handedOut)
  disk : next.disk = area.disk
  isOpen : next.closed = false
  troubles : grown.troubles = volume.troubles
  slotOf?_eq : ∀ key, next.slotOf? key = area.slotOf? key
  /-- No other slot stops being free. -/
  mem_freeSlots_iff : ∀ other,
    other ∈ next.freeSlots.slots ↔ other ∈ area.freeSlots.slots ∧ other ≠ slot

omit [DecidableEq Key] in
theorem Draws.congr {area next other : SwapArea Key pageSize} {volume grown written : Volume}
    {slot : Nat} (draws : area.Draws volume slot next grown)
    (sameCount : other.slotCount = next.slotCount)
    (sameLength : other.fileLength written = next.fileLength grown) :
    area.Draws volume slot other written := by
  cases draws with
  | reuse free lowest slotCount fileLength =>
    exact .reuse free lowest (sameCount.trans slotCount) (sameLength.trans fileLength)
  | extend full last slotCount fileLength =>
    exact .extend full last (sameCount.trans slotCount) (sameLength.trans fileLength)

section Bindings

variable {area : SwapArea Key pageSize} {volume : Volume}

theorem Intact.mem_values_iff (intact : area.Intact volume) (slot : Nat) :
    slot ∈ area.bindings.values ↔ ∃ key, area.slotOf? key = some slot := by
  simp only [KeyedTable.values, List.mem_map, Prod.exists, exists_eq_right, slotOf?,
    KeyedTable.mem_entries_iff intact.nodup_keys]

theorem Intact.nodup_values (intact : area.Intact volume) : area.bindings.values.Nodup := by
  apply List.Nodup.map_on _ (List.Nodup.of_map Prod.fst intact.nodup_keys)
  rintro ⟨first, slot⟩ firstBound ⟨second, _⟩ secondBound rfl
  rw [KeyedTable.mem_entries_iff intact.nodup_keys] at firstBound secondBound
  rw [intact.eq_of_slot first second slot firstBound secondBound]

theorem Intact.free_eq_ok (intact : area.Intact volume) {slot : Nat}
    (known : slot < area.slotCount) (nobodys : ¬ ∃ key, area.slotOf? key = some slot) :
    area.free slot = .ok { area with freeSlots := area.freeSlots.insert slot } := by
  rw [← intact.mem_values_iff slot] at nobodys
  simp [free, known, nobodys]

theorem Intact.free_eq_error (intact : area.Intact volume) {slot : Nat}
    (refused : ¬ (slot < area.slotCount ∧ ¬ ∃ key, area.slotOf? key = some slot)) :
    area.free slot = .error (.unknownSlot slot) := by
  rw [← intact.mem_values_iff slot, not_and_or, not_lt, not_not] at refused
  simp [free, refused]

/-- To release a page is to release every page that is this one. -/
theorem Intact.release_eq (intact : area.Intact volume) (key : Key) :
    area.release key = (area.slotOf? key, (area.releaseWhere fun other => other = key).2) := by
  have released := KeyedTable.filter_entries_eq intact.nodup_keys key
  have kept : area.bindings.erase key =
      ⟨area.bindings.entries.filter fun entry => !decide (entry.1 = key)⟩ := by
    simp [KeyedTable.erase]
  simp only [release, SwapArea.releaseWhere, List.partition_eq_filter_filter, Function.comp_def,
    released, ← kept, slotOf?]
  cases bound : area.bindings.find? key with
  | some slot => simp [SlotSet.insertAll]
  | none =>
    have unchanged : area.bindings.erase key = area.bindings := by
      rw [bound, Option.map_none, Option.toList_none, List.filter_eq_nil_iff] at released
      simp only [decide_eq_true_eq] at released
      rw [KeyedTable.erase, List.filter_eq_self.mpr]
      simpa using released
    simp [SlotSet.insertAll, unchanged]

end Bindings

section Requests

variable {area : SwapArea Key pageSize} {volume : Volume} {handedOut : Finset Nat}

theorem balanced_openNamed {name : String} {opened : Volume} (consistent : volume.Consistent)
    (done : openNamed volume name = .ok (area, opened)) :
    area.Balanced opened ∅ ∧ area.closed = false ∧ opened.troubles = volume.troubles := by
  obtain ⟨bindings, freeSlots⟩ := bindings_openNamed done
  have intact : area.Intact opened := intact_of_empty bindings freeSlots
  rw [openNamed, Disk.openNamed] at done
  split at done
  · rename_i disk changed diskOpened
    split at diskOpened
    · rename_i file fileVolume fileOpened
      obtain ⟨rfl, rfl⟩ := Prod.mk.inj (Except.ok.inj diskOpened)
      obtain ⟨rfl, rfl⟩ := Prod.mk.inj (Except.ok.inj done)
      obtain ⟨present, empty, troubles⟩ := Volume.of_openFile_eq_ok consistent fileOpened
      refine ⟨{ intact with present, fileLength_eq := ?_, lt_slotCount_iff := ?_, nobodys := ?_,
                            notFree := ?_ }, rfl, troubles⟩
      · simp [fileLength, Disk.byteLength, empty]
      · simp [slotOf?]
      · simp
      · simp
    · cases diskOpened
  · cases done

/-- There are as many slots as are bound, free or handed out. -/
theorem Balanced.slotCount_eq (balanced : area.Balanced volume handedOut) :
    area.slotCount = area.boundSlotCount + area.freeSlotCount + handedOut.card := by
  have listed : (List.range area.slotCount).Perm
      (area.bindings.values ++ area.freeSlots.slots ++ handedOut.toList) := by
    rw [List.perm_ext_iff_of_nodup List.nodup_range]
    · intro slot
      rw [List.mem_range, balanced.lt_slotCount_iff, List.mem_append, List.mem_append,
        balanced.mem_values_iff, Finset.mem_toList, or_assoc]
    · refine List.nodup_append'.mpr ⟨List.nodup_append'.mpr ⟨balanced.nodup_values,
        balanced.ascending.imp Nat.ne_of_lt, ?_⟩, handedOut.nodup_toList, ?_⟩
      · intro slot bound free
        obtain ⟨key, bound⟩ := (balanced.mem_values_iff slot).mp bound
        exact balanced.unbound slot free key bound
      · intro slot kept handed
        rw [Finset.mem_toList] at handed
        rcases List.mem_append.mp kept with bound | free
        · obtain ⟨key, bound⟩ := (balanced.mem_values_iff slot).mp bound
          exact balanced.nobodys slot handed key bound
        · exact balanced.notFree slot handed free
  simpa [boundSlotCount, freeSlotCount, KeyedTable.values, KeyedTable.size, SlotSet.size,
    Nat.add_assoc] using listed.length_eq

theorem Balanced.of_files_eq {other : Volume} (balanced : area.Balanced volume handedOut)
    (same : other.files = volume.files) : area.Balanced other handedOut := by
  have contents : ∀ file, other.content file = volume.content file := by
    intro file
    rw [Volume.content, Volume.content, same]
  exact { balanced with
    toIntact := balanced.toIntact.of_content_eq contents
    present := same ▸ balanced.present
    fileLength_eq := by
      rw [← balanced.fileLength_eq, fileLength, fileLength, Disk.byteLength, Disk.byteLength,
        contents] }

/-- Every slot below the slot count lies inside the file. -/
theorem Balanced.checkBlock_eq_ok (balanced : area.Balanced volume handedOut) {slot : Nat}
    (known : slot < area.slotCount) :
    area.disk.checkBlock volume slot pageSize = .ok () := by
  apply Disk.checkBlock_eq_ok_iff.mpr
  refine ⟨rfl, ?_⟩
  have fileLength_eq := balanced.fileLength_eq
  rw [fileLength] at fileLength_eq
  rw [fileLength_eq]
  exact Nat.mul_le_mul_right _ known

theorem Balanced.read_eq_ok (balanced : area.Balanced volume handedOut)
    (isOpen : area.closed = false) {slot : Nat} (known : slot < area.slotCount) :
    area.read volume slot pageSize = .ok (area.slotContent volume slot) := by
  rw [read, if_neg (fun differs => differs rfl), isOpen, if_neg Bool.false_ne_true,
    if_neg (Nat.not_le.mpr known), Disk.tryRead_eq_ok (balanced.checkBlock_eq_ok known)]
  rfl

/-- The content of slots may change; the balance does not. -/
theorem Balanced.of_overwrite {slot : Nat} {data : Bytes}
    (balanced : area.Balanced volume handedOut)
    (intact : area.Intact (volume.modify area.disk.file fun bytes =>
      bytes.overwrite (slot * pageSize) data)) :
    area.Balanced (volume.modify area.disk.file fun bytes =>
      bytes.overwrite (slot * pageSize) data) handedOut :=
  { balanced with
    toIntact := intact
    present := Volume.size_files_modify.symm ▸ balanced.present
    fileLength_eq := byteLength_modify.trans balanced.fileLength_eq }

/-- A request for a slot takes the lowest free one. -/
theorem Balanced.allocates_lowest (balanced : area.Balanced volume handedOut)
    (positive : 0 < pageSize) (isOpen : area.closed = false) {slot : Nat} {rest : SlotSet}
    (taken : area.freeSlots.takeLowest? = some (slot, rest)) :
    area.allocate volume = .ok (slot, { area with freeSlots := rest }, volume) ∧
      area.Allocates volume handedOut slot { area with freeSlots := rest } volume := by
  have done := allocate_of_taken volume none isOpen taken
  have listed := SlotSet.slots_of_takeLowest?_eq_some taken
  have free : slot ∈ area.freeSlots.slots := listed ▸ List.mem_cons_self
  have ascending := listed ▸ balanced.ascending
  rw [List.pairwise_cons] at ascending
  have restIff : ∀ other, other ∈ rest.slots ↔ other ∈ area.freeSlots.slots ∧ other ≠ slot := by
    intro other
    rw [listed, List.mem_cons]
    constructor
    · intro member
      exact ⟨.inr member, (Nat.ne_of_lt (ascending.1 other member)).symm⟩
    · rintro ⟨same | member, differs⟩
      · exact absurd same differs
      · exact member
  refine ⟨done, .reuse free ?_ rfl rfl, fun handed => balanced.notFree slot handed free,
    { balanced with
      toIntact := (of_allocate_eq_ok balanced.toIntact positive done).1
      lt_slotCount_iff := ?_
      nobodys := ?_
      notFree := ?_ }, rfl, isOpen, rfl, fun _ => rfl, restIff⟩
  · intro other member
    rcases List.mem_cons.mp (listed ▸ member) with rfl | member
    · exact Nat.le_refl _
    · exact Nat.le_of_lt (ascending.1 other member)
  · intro other
    change other < area.slotCount ↔ (∃ key, area.slotOf? key = some other) ∨ _
    rw [balanced.lt_slotCount_iff, restIff, Finset.mem_insert]
    by_cases same : other = slot
    · simp [same, free]
    · simp [same]
  · intro other handed
    rcases Finset.mem_insert.mp handed with rfl | handed
    · exact balanced.unbound other free
    · exact balanced.nobodys other handed
  · intro other handed member
    obtain ⟨wasFree, differs⟩ := (restIff other).mp member
    rcases Finset.mem_insert.mp handed with same | handed
    · exact differs same
    · exact balanced.notFree other handed wasFree

/-- A request for a slot takes a new one at the end of the file if none is
free. -/
theorem Balanced.allocates_last (balanced : area.Balanced volume handedOut)
    (positive : 0 < pageSize) (isOpen : area.closed = false)
    (empty : area.freeSlots.takeLowest? = none) :
    area.allocate volume =
        .ok (area.slotCount, { area with slotCount := area.slotCount + 1 },
          (area.disk.grow volume).2) ∧
      area.Allocates volume handedOut area.slotCount
        { area with slotCount := area.slotCount + 1 } (area.disk.grow volume).2 := by
  have fileLength_eq := balanced.fileLength_eq
  have noneFree := SlotSet.slots_of_takeLowest?_eq_none empty
  have block : (area.disk.grow volume).1 = area.slotCount := by
    rw [fileLength] at fileLength_eq
    rw [Disk.grow, Disk.blockCount, fileLength_eq, Nat.mul_div_cancel _ positive]
  have done : area.allocate volume =
      .ok (area.slotCount, { area with slotCount := area.slotCount + 1 },
        (area.disk.grow volume).2) := by
    rw [← block]
    exact allocate_of_full volume isOpen noneFree
  obtain ⟨intact, -, -, nobodys, -⟩ := of_allocate_eq_ok balanced.toIntact positive done
  have newLength : (area.disk.grow volume).2.content area.disk.file =
      Bytes.resize (volume.content area.disk.file) ((area.slotCount + 1) * pageSize) := by
    rw [← block]
    exact Volume.content_modify_of_lt balanced.present
  have grownLength : (area.disk.byteLength (area.disk.grow volume).2) =
      (area.slotCount + 1) * pageSize := by
    rw [Disk.byteLength, newLength, Bytes.size_resize]
  refine ⟨done, .extend noneFree rfl rfl ?_, ?_,
    { intact with
      present := ?_
      fileLength_eq := grownLength
      lt_slotCount_iff := ?_
      nobodys := ?_
      notFree := by simp [noneFree] }, rfl, isOpen, rfl, fun _ => rfl, by simp [noneFree]⟩
  · change area.disk.byteLength (area.disk.grow volume).2 = _
    rw [grownLength, fileLength_eq, Nat.succ_mul]
  · intro handed
    have below := (balanced.lt_slotCount_iff area.slotCount).mpr (.inr (.inr handed))
    exact Nat.lt_irrefl _ below
  · rw [Disk.grow, Volume.setLength, Volume.size_files_modify]
    exact balanced.present
  · intro other
    change other < area.slotCount + 1 ↔ (∃ key, area.slotOf? key = some other) ∨ _
    rw [Nat.lt_succ_iff_lt_or_eq, balanced.lt_slotCount_iff, Finset.mem_insert, or_assoc, or_assoc,
      or_comm (a := other ∈ handedOut)]
  · intro other handed
    rcases Finset.mem_insert.mp handed with rfl | handed
    · exact nobodys
    · exact balanced.nobodys other handed

/-- An open area always has a slot to give. -/
theorem Balanced.exists_allocate (balanced : area.Balanced volume handedOut)
    (positive : 0 < pageSize) (isOpen : area.closed = false) :
    ∃ slot next grown, area.allocate volume = .ok (slot, next, grown) ∧
      area.Allocates volume handedOut slot next grown := by
  cases taken : area.freeSlots.takeLowest? with
  | some lowest => exact ⟨_, _, _, balanced.allocates_lowest positive isOpen taken⟩
  | none => exact ⟨_, _, _, balanced.allocates_last positive isOpen taken⟩

/-- A slot that was handed out can be bound to a page that has none. -/
theorem Balanced.bind {slot : Nat} {key : Key} (balanced : area.Balanced volume handedOut)
    (handed : slot ∈ handedOut) (unbound : area.slotOf? key = none) :
    Balanced { area with bindings := area.bindings.set key slot } volume
      (handedOut.erase slot) := by
  have bindings : ∀ other, slotOf? { area with bindings := area.bindings.set key slot } other =
      if other = key then some slot else area.slotOf? other :=
    fun other => KeyedTable.find?_set area.bindings key other slot
  have known := (balanced.lt_slotCount_iff slot).mpr (.inr (.inr handed))
  have inside := (Disk.checkBlock_eq_ok_iff.mp (balanced.checkBlock_eq_ok known)).2
  have boundIff : ∀ other,
      (∃ page, slotOf? { area with bindings := area.bindings.set key slot } page = some other) ↔
        other = slot ∨ ∃ page, area.slotOf? page = some other := by
    intro other
    constructor
    · rintro ⟨page, bound⟩
      rw [bindings] at bound
      split at bound
      · exact .inl (Option.some.inj bound).symm
      · exact .inr ⟨page, bound⟩
    · rintro (rfl | ⟨page, bound⟩)
      · exact ⟨key, by rw [bindings, if_pos rfl]⟩
      · have differs : page ≠ key := by
          rintro rfl
          rw [unbound] at bound
          cases bound
        exact ⟨page, by rw [bindings, if_neg differs, bound]⟩
  refine { balanced with
    toIntact := balanced.toIntact.bind (balanced.nobodys slot handed)
      (balanced.notFree slot handed) inside key
    lt_slotCount_iff := ?_
    nobodys := ?_
    notFree := fun other member => balanced.notFree other (Finset.mem_of_mem_erase member) }
  · intro other
    change other < area.slotCount ↔ _ ∨ other ∈ area.freeSlots.slots ∨ _
    rw [boundIff, balanced.lt_slotCount_iff, Finset.mem_erase]
    by_cases same : other = slot
    · simp [same, handed]
    · simp [same]
  · intro other member page bound
    obtain ⟨differs, stillHanded⟩ := Finset.mem_erase.mp member
    rcases (boundIff other).mp ⟨page, bound⟩ with same | ⟨page, bound⟩
    · exact differs same
    · exact balanced.nobodys other stillHanded page bound

/-- A slot that belongs to no page can be given back. -/
theorem Balanced.giveBack {slot : Nat} (balanced : area.Balanced volume handedOut)
    (known : slot < area.slotCount) (nobodys : ¬ ∃ key, area.slotOf? key = some slot) :
    Balanced { area with freeSlots := area.freeSlots.insert slot } volume
      (handedOut.erase slot) := by
  refine { balanced with
    toIntact := balanced.toIntact.giveBack (not_exists.mp nobodys)
    lt_slotCount_iff := ?_
    nobodys := fun other member => balanced.nobodys other (Finset.mem_of_mem_erase member)
    notFree := ?_ }
  · intro other
    change other < area.slotCount ↔ (∃ key, area.slotOf? key = some other) ∨ _
    rw [SlotSet.mem_insert, Finset.mem_erase]
    by_cases same : other = slot
    · simp [same, known]
    · simp [same, balanced.lt_slotCount_iff]
  · intro other member
    obtain ⟨differs, handed⟩ := Finset.mem_erase.mp member
    rw [SlotSet.mem_insert, not_or]
    exact ⟨differs, balanced.notFree other handed⟩

theorem Intact.mem_freeSlots_releaseWhere (intact : area.Intact volume) (selected : Key → Bool)
    (slot : Nat) :
    slot ∈ (area.releaseWhere selected).2.freeSlots.slots ↔
      (∃ key, area.slotOf? key = some slot ∧ selected key = true) ∨
        slot ∈ area.freeSlots.slots := by
  simp only [SwapArea.releaseWhere, List.partition_eq_filter_filter, SlotSet.mem_insertAll,
    List.mem_map, List.mem_filter, Prod.exists, exists_eq_right,
    KeyedTable.mem_entries_iff intact.nodup_keys, slotOf?]

/-- Slots of pages that are released become free. -/
theorem Balanced.releaseWhere (balanced : area.Balanced volume handedOut)
    (selected : Key → Bool) :
    (area.releaseWhere selected).2.Balanced volume handedOut := by
  have freeIff := balanced.mem_freeSlots_releaseWhere selected
  have bindings := slotOf?_releaseWhere area selected
  refine
    { toIntact := balanced.toIntact.releaseWhere selected
      present := balanced.present
      fileLength_eq := balanced.fileLength_eq
      lt_slotCount_iff := ?_
      nobodys := ?_
      notFree := ?_ }
  · intro slot
    change slot < area.slotCount ↔ _
    rw [balanced.lt_slotCount_iff, freeIff]
    simp only [bindings]
    constructor
    · rintro (⟨key, bound⟩ | free | handed)
      · cases chosen : selected key with
        | true => exact .inr (.inl (.inl ⟨key, bound, chosen⟩))
        | false => exact .inl ⟨key, by rw [chosen, if_neg Bool.false_ne_true, bound]⟩
      · exact .inr (.inl (.inr free))
      · exact .inr (.inr handed)
    · rintro (⟨key, bound⟩ | (⟨key, bound, -⟩ | free) | handed)
      · split at bound
        · cases bound
        · exact .inl ⟨key, bound⟩
      · exact .inl ⟨key, bound⟩
      · exact .inr (.inl free)
      · exact .inr (.inr handed)
  · intro slot handed key bound
    rw [bindings] at bound
    split at bound
    · cases bound
    · exact balanced.nobodys slot handed key bound
  · intro slot handed member
    rcases (freeIff slot).mp member with ⟨key, bound, -⟩ | free
    · exact balanced.nobodys slot handed key bound
    · exact balanced.notFree slot handed free

/-- A page that has a slot is written to it. -/
theorem Balanced.write_bound (balanced : area.Balanced volume handedOut)
    (isOpen : area.closed = false) {key : Key} {slot : Nat} {data : Bytes}
    (fits : data.size = pageSize) (bound : area.slotOf? key = some slot) :
    area.write volume key data =
      (.ok slot, area, volume.modify area.disk.file fun bytes =>
        bytes.overwrite (slot * pageSize) data) := by
  have known := (balanced.lt_slotCount_iff slot).mpr (.inl ⟨key, bound⟩)
  have checked : area.disk.checkBlock volume slot data.size = .ok () := by
    rw [fits]
    exact balanced.checkBlock_eq_ok known
  rw [write_of_bound volume none isOpen fits bound, Disk.tryWrite_eq_ok checked]

/-- A page that has no slot is given one and written to it. -/
theorem Balanced.write_unbound (isOpen : area.closed = false) {key : Key} {slot : Nat}
    {data : Bytes} {next : SwapArea Key pageSize} {grown : Volume} (fits : data.size = pageSize)
    (unbound : area.slotOf? key = none)
    (allocated : area.allocate volume = .ok (slot, next, grown))
    (allocates : area.Allocates volume handedOut slot next grown) :
    area.write volume key data =
      (.ok slot, { next with bindings := next.bindings.set key slot },
        grown.modify next.disk.file fun bytes => bytes.overwrite (slot * pageSize) data) := by
  have handed : slot ∈ insert slot handedOut := Finset.mem_insert_self slot handedOut
  have known := (allocates.balanced.lt_slotCount_iff slot).mpr (.inr (.inr handed))
  have checked : next.disk.checkBlock grown slot data.size = .ok () := by
    rw [fits]
    exact allocates.balanced.checkBlock_eq_ok known
  rw [write_of_allocated isOpen fits unbound allocated, Disk.tryWrite_eq_ok checked]

/-- What a request to write a page does to the slots of a balanced area. -/
structure Keeps (area : SwapArea Key pageSize) (volume : Volume) (handedOut : Finset Nat)
    (key : Key) (slot : Nat) (next : SwapArea Key pageSize) (written : Volume) : Prop where
  balanced : next.Balanced written handedOut
  isOpen : next.closed = false
  troubles : written.troubles = volume.troubles
  bound : next.slotOf? key = some slot
  /-- The page has its slot already, or it is given one. -/
  source : area.slotOf? key = some slot ∧ next = area ∧
      next.fileLength written = area.fileLength volume ∨
    area.slotOf? key = none ∧ area.Draws volume slot next written ∧
      ∀ other, other ∈ next.freeSlots.slots ↔ other ∈ area.freeSlots.slots ∧ other ≠ slot

/-- Every page can be written to an open area. -/
theorem Balanced.exists_write (balanced : area.Balanced volume handedOut)
    (positive : 0 < pageSize) (isOpen : area.closed = false) (key : Key) {data : Bytes}
    (fits : data.size = pageSize) :
    ∃ slot next written, area.write volume key data = (.ok slot, next, written) ∧
      area.Keeps volume handedOut key slot next written := by
  cases bound : area.slotOf? key with
  | some slot =>
    have done := balanced.write_bound isOpen fits bound
    have intact := (writes_write balanced.toIntact positive fits done).intact
    exact ⟨_, _, _, done, balanced.of_overwrite intact, isOpen, rfl, bound,
      .inl ⟨bound, rfl, byteLength_modify⟩⟩
  | none =>
    obtain ⟨slot, next, grown, allocated, allocates⟩ := balanced.exists_allocate positive isOpen
    have done := Balanced.write_unbound isOpen fits bound allocated allocates
    have intact := (writes_write balanced.toIntact positive fits done).intact
    have handed : slot ∈ insert slot handedOut := Finset.mem_insert_self slot handedOut
    have bindable := allocates.balanced.bind handed ((allocates.slotOf?_eq key).trans bound)
    rw [Finset.erase_insert allocates.fresh] at bindable
    refine ⟨slot, _, _, done, bindable.of_overwrite intact, allocates.isOpen, allocates.troubles,
      KeyedTable.find?_set_self _ _ _, .inr ⟨bound, ?_, allocates.mem_freeSlots_iff⟩⟩
    exact allocates.draws.congr rfl byteLength_modify

omit [DecidableEq Key] in
/-- A request for a slot that runs into trouble is refused, or the trouble comes
too late for it. -/
theorem allocate_cases (area : SwapArea Key pageSize) (volume : Volume)
    (trouble : Option Trouble) :
    (∃ error, area.allocate volume trouble = .error error) ∨
      area.allocate volume trouble = area.allocate volume := by
  match trouble with
  | none => exact .inr rfl
  | some (.brokenOff error reached) => exact .inr rfl
  | some (.refused error) =>
    rw [allocate, allocate]
    cases area.closed with
    | true => exact .inr rfl
    | false =>
      cases area.freeSlots.takeLowest? with
      | some lowest => exact .inr rfl
      | none => exact .inl ⟨_, rfl⟩

/-- A request that writes to a slot leaves the length of the file alone, however
far it comes. -/
theorem Balanced.of_tryWrite {slot : Nat} {data : Bytes} {trouble : Option Trouble}
    {result : Except DiskError Unit} {written : Volume}
    (balanced : area.Balanced volume handedOut)
    (tried : area.disk.tryWrite volume slot data trouble = (result, written)) :
    area.Balanced written handedOut := by
  rcases area.disk.tryWrite_cases volume slot data trouble with
      ⟨error, refused⟩ | ⟨-, outcome, part, -, -, reached⟩
  · obtain ⟨-, rfl⟩ := Prod.mk.inj (refused.symm.trans tried)
    exact balanced
  · obtain ⟨-, rfl⟩ := Prod.mk.inj (reached.symm.trans tried)
    apply balanced.of_overwrite
    exact { balanced.toIntact with
      inside := fun key slot bound => by
        rw [byteLength_modify]
        exact balanced.inside key slot bound }

/-- A slot that was given for a write belongs to the page or is free again. -/
theorem Allocates.of_tryWrite {slot : Nat} {key : Key} {data : Bytes} {trouble : Option Trouble}
    {result : Except DiskError Unit} {next : SwapArea Key pageSize} {grown written : Volume}
    (allocates : area.Allocates volume handedOut slot next grown)
    (unbound : area.slotOf? key = none)
    (tried : next.disk.tryWrite grown slot data trouble = (result, written)) :
    Balanced { next with bindings := next.bindings.set key slot } written handedOut ∧
      Balanced { next with freeSlots := next.freeSlots.insert slot } written handedOut := by
  have handed : slot ∈ insert slot handedOut := Finset.mem_insert_self slot handedOut
  have nobodys := allocates.balanced.nobodys slot handed
  have known := (allocates.balanced.lt_slotCount_iff slot).mpr (.inr (.inr handed))
  have tried := allocates.balanced.of_tryWrite tried
  have bound := tried.bind handed ((allocates.slotOf?_eq key).trans unbound)
  have returned := tried.giveBack known (not_exists.mpr nobodys)
  rw [Finset.erase_insert allocates.fresh] at bound returned
  exact ⟨bound, returned⟩

/-- Whatever becomes of a request to write a page, the slots stay balanced, and
there are more of them only if none was free for a page that has none. -/
theorem Balanced.of_write {key : Key} {data : Bytes} {trouble : Option Trouble}
    {outcome : Except SwapError Nat} {next : SwapArea Key pageSize} {written : Volume}
    (balanced : area.Balanced volume handedOut) (positive : 0 < pageSize)
    (isOpen : area.closed = false) (fits : data.size = pageSize)
    (done : area.write volume key data trouble = (outcome, next, written)) :
    next.Balanced written handedOut ∧
      (next.slotCount = area.slotCount ∨
        area.freeSlots.slots = [] ∧ area.slotOf? key = none ∧
          next.slotCount = area.slotCount + 1) := by
  obtain unbound | ⟨slot, bound⟩ := Option.eq_none_or_eq_some (area.slotOf? key)
  · rcases area.allocate_cases volume trouble with ⟨error, refused⟩ | same
    · rw [write, if_neg (fun differs => differs fits), isOpen, if_neg Bool.false_ne_true, unbound]
        at done
      simp only [refused] at done
      obtain ⟨-, rfl, rfl⟩ := by simpa using done
      exact ⟨balanced, .inl rfl⟩
    · obtain ⟨slot, allotted, grown, allocated, allocates⟩ :=
        balanced.exists_allocate positive isOpen
      have grows : allotted.slotCount = area.slotCount ∨
          area.freeSlots.slots = [] ∧ area.slotOf? key = none ∧
            allotted.slotCount = area.slotCount + 1 := by
        cases allocates.draws with
        | reuse _ _ slotCount _ => exact .inl slotCount
        | extend full _ slotCount _ => exact .inr ⟨full, unbound, slotCount⟩
      rw [write_of_allocated isOpen fits unbound (same.trans allocated)] at done
      split at done
      all_goals
        rename_i tried
        obtain ⟨-, rfl, rfl⟩ := by simpa using done
      · exact ⟨(allocates.of_tryWrite unbound tried).1, grows⟩
      · exact ⟨(allocates.of_tryWrite unbound tried).2, grows⟩
  · rw [write_of_bound volume trouble isOpen fits bound] at done
    split at done
    all_goals
      rename_i tried
      obtain ⟨-, rfl, rfl⟩ := by simpa using done
      exact ⟨balanced.of_tryWrite tried, .inl rfl⟩

end Requests

end SwapArea

end DemandPaging
