import DemandPaging.Storage.SwapArea

/-!
# What a swap area keeps

Every page that is bound to a slot has the slot to itself, and the slot lies
inside the file.  Therefore a page that is written changes the content that is
kept for this page only, whether the request goes well or breaks off half way.
-/

namespace DemandPaging

namespace SwapArea

variable {Key : Type} {pageSize : Nat}

def slotContent (area : SwapArea Key pageSize) (volume : Volume) (slot : Nat) : Bytes :=
  Bytes.slice (volume.content area.disk.file) (slot * pageSize) pageSize

section Slots

variable {area : SwapArea Key pageSize} {volume : Volume}

theorem slots_apart {first second : Nat} (differs : first ≠ second) :
    first * pageSize + pageSize ≤ second * pageSize ∨
      second * pageSize + pageSize ≤ first * pageSize := by
  rw [← Nat.succ_mul, ← Nat.succ_mul]
  rcases Nat.lt_or_gt_of_ne differs with below | above
  · exact .inl (Nat.mul_le_mul_right _ below)
  · exact .inr (Nat.mul_le_mul_right _ above)

theorem slotContent_modify_of_ne {slot other : Nat} {part : Bytes} (fits : part.size ≤ pageSize)
    (differs : other ≠ slot) :
    area.slotContent (volume.modify area.disk.file fun bytes =>
        bytes.overwrite (slot * pageSize) part) other =
      area.slotContent volume other := by
  simp only [slotContent]
  obtain changed | ⟨absent, empty⟩ := volume.content_modify_self area.disk.file fun bytes =>
    bytes.overwrite (slot * pageSize) part
  · rw [changed, Bytes.slice_overwrite_of_apart]
    have apart := @slots_apart pageSize _ _ differs
    omega
  · rw [absent, empty]

theorem byteLength_modify {slot : Nat} {part : Bytes} :
    area.disk.byteLength (volume.modify area.disk.file fun bytes =>
        bytes.overwrite (slot * pageSize) part) = area.disk.byteLength volume := by
  simp only [Disk.byteLength]
  obtain changed | ⟨absent, empty⟩ := volume.content_modify_self area.disk.file fun bytes =>
    bytes.overwrite (slot * pageSize) part
  · rw [changed, Bytes.size_overwrite]
  · rw [absent, empty]

/-- A block that is written ends up with the data, whole or in part, and no other
slot changes. -/
theorem tryWrite_slot {slot : Nat} {data : Bytes} {trouble : Option Trouble}
    {outcome : Except DiskError Unit} {written : Volume} (positive : 0 < pageSize)
    (fits : data.size = pageSize)
    (done : area.disk.tryWrite volume slot data trouble = (outcome, written)) :
    area.disk.byteLength written = area.disk.byteLength volume ∧
      (∀ other, other ≠ slot → area.slotContent written other = area.slotContent volume other) ∧
      (outcome = .ok () → (slot + 1) * pageSize ≤ area.disk.byteLength volume ∧
        area.slotContent written slot = data) := by
  rcases area.disk.tryWrite_cases volume slot data trouble with
      ⟨error, refused⟩ | ⟨checked, result, part, short, whole, reached⟩
  · rw [refused] at done
    obtain ⟨rfl, rfl⟩ := Prod.mk.inj done
    exact ⟨rfl, fun _ _ => rfl, nofun⟩
  · rw [reached] at done
    obtain ⟨rfl, rfl⟩ := Prod.mk.inj done
    refine ⟨byteLength_modify, fun other => slotContent_modify_of_ne (fits ▸ short), ?_⟩
    intro succeeded
    obtain rfl := whole succeeded
    have ends := (Disk.checkBlock_eq_ok_iff.mp checked).2
    refine ⟨ends, ?_⟩
    rw [Disk.byteLength] at ends
    have room : slot * pageSize + pageSize ≤ (volume.content area.disk.file).size := by
      rwa [Nat.succ_mul] at ends
    obtain changed | ⟨-, empty⟩ := volume.content_modify_self area.disk.file fun bytes =>
      bytes.overwrite (slot * pageSize) part
    · rw [slotContent, changed, Bytes.slice_overwrite_self fits room]
    · rw [empty, Array.size_empty] at room
      omega

theorem slotContent_grow {slot : Nat} (positive : 0 < pageSize)
    (inside : (slot + 1) * pageSize ≤ area.disk.byteLength volume) :
    (slot + 1) * pageSize ≤ area.disk.byteLength (area.disk.grow volume).2 ∧
      area.slotContent (area.disk.grow volume).2 slot = area.slotContent volume slot := by
  have blocks : slot + 1 ≤ area.disk.blockCount volume :=
    (Nat.le_div_iff_mul_le positive).mpr inside
  have longer : (slot + 1) * pageSize ≤ (area.disk.blockCount volume + 1) * pageSize :=
    Nat.mul_le_mul_right _ (by omega)
  simp only [Disk.grow, Volume.setLength, Disk.byteLength, slotContent] at inside ⊢
  obtain changed | ⟨absent, empty⟩ := volume.content_modify_self area.disk.file fun bytes =>
    bytes.resize ((area.disk.blockCount volume + 1) * pageSize)
  · rw [changed, Bytes.size_resize]
    rw [Nat.succ_mul] at inside longer
    exact ⟨by rwa [Nat.succ_mul], Bytes.slice_resize inside longer⟩
  · rw [absent, empty]
    exact ⟨empty ▸ inside, rfl⟩

theorem bindings_openNamed {name : String} {opened : Volume}
    (done : openNamed volume name = .ok (area, opened)) :
    area.bindings = {} ∧ area.freeSlots = {} := by
  rw [openNamed] at done
  split at done
  · obtain ⟨rfl, -⟩ := Prod.mk.inj (Except.ok.inj done)
    exact ⟨rfl, rfl⟩
  · cases done

end Slots

variable [DecidableEq Key]

def stored? (area : SwapArea Key pageSize) (volume : Volume) (key : Key) : Option Bytes :=
  (area.slotOf? key).map (area.slotContent volume)

/-- The slots of a swap area do not get into each other's way. -/
structure Intact (area : SwapArea Key pageSize) (volume : Volume) : Prop where
  nodup_keys : area.bindings.keys.Nodup
  inside : ∀ key slot, area.slotOf? key = some slot →
    (slot + 1) * pageSize ≤ area.disk.byteLength volume
  /-- No slot belongs to two pages. -/
  eq_of_slot : ∀ first second slot, area.slotOf? first = some slot →
    area.slotOf? second = some slot → first = second
  ascending : area.freeSlots.slots.Pairwise (· < ·)
  unbound : ∀ slot ∈ area.freeSlots.slots, ∀ key, area.slotOf? key ≠ some slot

/-- What a request to write the page `key` does, with its outcome. -/
structure Writes (area : SwapArea Key pageSize) (volume : Volume) (key : Key) (data : Bytes)
    (outcome : Except SwapError Nat) (next : SwapArea Key pageSize) (written : Volume) :
    Prop where
  intact : next.Intact written
  slotOf?_other : ∀ other, other ≠ key → next.slotOf? other = area.slotOf? other
  stored?_other : ∀ other, other ≠ key → next.stored? written other = area.stored? volume other
  /-- A page that was written is kept. -/
  stored : ∀ slot, outcome = .ok slot → next.stored? written key = some data
  /-- A page that could not be written keeps its slot, if it has one. -/
  failed : ∀ error, outcome = .error error → next.slotOf? key = area.slotOf? key

section Requests

variable {area next : SwapArea Key pageSize} {volume grown : Volume} {key : Key}

theorem slotOf?_of_empty (bindings : area.bindings = {}) (key : Key) :
    area.slotOf? key = none := by
  rw [slotOf?, bindings]
  rfl

theorem intact_of_empty (bindings : area.bindings = {}) (freeSlots : area.freeSlots = {}) :
    area.Intact volume := by
  have unbound : ∀ key slot, area.slotOf? key ≠ some slot := by
    intro key slot
    rw [slotOf?_of_empty bindings]
    exact nofun
  constructor
  case nodup_keys =>
    rw [bindings]
    exact List.nodup_nil
  case inside => exact fun key slot bound => absurd bound (unbound key slot)
  case eq_of_slot => exact fun first _ slot bound => absurd bound (unbound first slot)
  case ascending =>
    rw [freeSlots]
    exact .nil
  case unbound => exact fun slot _ key => unbound key slot

theorem Intact.of_content_eq {other : Volume} (intact : area.Intact volume)
    (same : ∀ file, other.content file = volume.content file) : area.Intact other :=
  { intact with
    inside := fun key slot bound => by
      rw [Disk.byteLength, same]
      exact intact.inside key slot bound }

theorem Intact.slotOf?_grow_ne (intact : area.Intact volume) (positive : 0 < pageSize) (key : Key) :
    area.slotOf? key ≠ some (area.disk.grow volume).1 := by
  intro bound
  have inside := intact.inside key _ bound
  have below : area.disk.blockCount volume + 1 ≤ area.disk.byteLength volume / pageSize :=
    (Nat.le_div_iff_mul_le positive).mpr inside
  rw [Disk.blockCount] at below
  omega

theorem of_allocate_eq_ok {slot : Nat} {trouble : Option Trouble} (intact : area.Intact volume)
    (positive : 0 < pageSize) (done : area.allocate volume trouble = .ok (slot, next, grown)) :
    next.Intact grown ∧ next.disk = area.disk ∧ next.bindings = area.bindings ∧
      (∀ key, next.slotOf? key ≠ some slot) ∧ slot ∉ next.freeSlots.slots ∧
      ∀ key, next.stored? grown key = area.stored? volume key := by
  rw [allocate] at done
  split at done
  · cases done
  split at done
  · rename_i lowest rest taken
    obtain ⟨rfl, rfl, rfl⟩ := by simpa using done
    have listed := SlotSet.slots_of_takeLowest?_eq_some taken
    have ascending := listed ▸ intact.ascending
    rw [List.pairwise_cons] at ascending
    have unbound := listed ▸ intact.unbound
    refine ⟨⟨intact.nodup_keys, intact.inside, intact.eq_of_slot, ascending.2, ?_⟩, rfl, rfl,
      ?_, ?_, fun _ => rfl⟩
    · exact fun slot member => unbound slot (List.mem_cons_of_mem _ member)
    · exact unbound lowest List.mem_cons_self
    · exact fun member => Nat.lt_irrefl _ (ascending.1 lowest member)
  · rename_i empty
    have noneFree := SlotSet.slots_of_takeLowest?_eq_none empty
    split at done
    · cases done
    · rename_i block changed growth
      have grew : area.disk.grow volume = (block, changed) := by
        rw [Disk.tryGrow.eq_def] at growth
        split at growth
        · cases growth
        · exact Except.ok.inj growth
      obtain ⟨rfl, rfl, rfl⟩ := by simpa using done
      -- The file grows behind every slot that is bound.
      have keeps : ∀ key slot, area.slotOf? key = some slot →
          (slot + 1) * pageSize ≤ area.disk.byteLength changed ∧
            area.slotContent changed slot = area.slotContent volume slot := by
        intro key slot bound
        have kept := slotContent_grow positive (intact.inside key slot bound)
        rwa [grew] at kept
      have unbound := intact.slotOf?_grow_ne positive
      rw [grew] at unbound
      refine ⟨⟨intact.nodup_keys, fun key slot bound => (keeps key slot bound).1,
        intact.eq_of_slot, intact.ascending, intact.unbound⟩, rfl, rfl, unbound, ?_, ?_⟩
      · simp [noneFree]
      · intro key
        change (area.slotOf? key).map (area.slotContent changed) = _
        refine Option.map_congr fun slot bound => ?_
        exact (keeps key slot bound).2

theorem writes_slot {slot : Nat} {data : Bytes} {trouble : Option Trouble}
    {outcome : Except DiskError Unit} {written : Volume} (intact : area.Intact volume)
    (positive : 0 < pageSize) (fits : data.size = pageSize)
    (alone : ∀ other, other ≠ key → area.slotOf? other ≠ some slot)
    (done : area.disk.tryWrite volume slot data trouble = (outcome, written)) :
    area.Intact written ∧
      ∀ other, other ≠ key → area.stored? written other = area.stored? volume other := by
  obtain ⟨length, others, -⟩ := tryWrite_slot positive fits done
  refine ⟨⟨intact.nodup_keys, ?_, intact.eq_of_slot, intact.ascending, intact.unbound⟩, ?_⟩
  · intro other otherSlot bound
    rw [length]
    exact intact.inside other otherSlot bound
  · intro other differs
    refine Option.map_congr fun otherSlot bound => ?_
    exact others otherSlot fun same => alone other differs (same ▸ bound)

theorem Intact.bind {slot : Nat} (intact : area.Intact volume)
    (nobodys : ∀ key, area.slotOf? key ≠ some slot) (notFree : slot ∉ area.freeSlots.slots)
    (inside : (slot + 1) * pageSize ≤ area.disk.byteLength volume) (key : Key) :
    Intact { area with bindings := area.bindings.set key slot } volume := by
  have bindings : ∀ other, slotOf? { area with bindings := area.bindings.set key slot } other =
      if other = key then some slot else area.slotOf? other :=
    fun other => KeyedTable.find?_set area.bindings key other slot
  refine ⟨KeyedTable.nodup_keys_set intact.nodup_keys key slot, ?_, ?_, intact.ascending, ?_⟩
  · intro other otherSlot bound
    rw [bindings] at bound
    split at bound
    · exact Option.some.inj bound ▸ inside
    · exact intact.inside other otherSlot bound
  · intro first second shared firstBound secondBound
    rw [bindings] at firstBound secondBound
    grind [intact.eq_of_slot]
  · intro free member other bound
    rw [bindings] at bound
    split at bound
    · exact notFree (Option.some.inj bound ▸ member)
    · exact intact.unbound free member other bound

theorem Intact.giveBack {slot : Nat} (intact : area.Intact volume)
    (nobodys : ∀ key, area.slotOf? key ≠ some slot) :
    Intact { area with freeSlots := area.freeSlots.insert slot } volume where
  nodup_keys := intact.nodup_keys
  inside := intact.inside
  eq_of_slot := intact.eq_of_slot
  ascending := SlotSet.pairwise_insert intact.ascending slot
  unbound free member := by
    rcases (SlotSet.mem_insert _ _ _).mp member with rfl | member
    · exact nobodys
    · exact intact.unbound free member

theorem writes_again {slot : Nat} {data : Bytes} {trouble : Option Trouble}
    {result : Except DiskError Unit} {written : Volume} (intact : area.Intact volume)
    (positive : 0 < pageSize) (fits : data.size = pageSize)
    (bound : area.slotOf? key = some slot)
    (tried : area.disk.tryWrite volume slot data trouble = (result, written)) :
    Writes area volume key data ((result.mapError SwapError.disk).map fun _ => slot) area
      written := by
  have alone : ∀ other, other ≠ key → area.slotOf? other ≠ some slot := by
    intro other differs otherBound
    exact differs (intact.eq_of_slot other key slot otherBound bound)
  obtain ⟨kept, others⟩ := writes_slot intact positive fits alone tried
  obtain ⟨-, -, reached⟩ := tryWrite_slot positive fits tried
  refine ⟨kept, fun _ _ => rfl, others, ?_, fun _ _ => rfl⟩
  intro _ succeeded
  cases result with
  | error error => cases succeeded
  | ok => rw [stored?, bound, Option.map_some, (reached rfl).2]

/-- A page that has no slot gets one once it was written to it; otherwise the
slot is free again. -/
theorem writes_first {slot : Nat} {data : Bytes} {allotted : SwapArea Key pageSize}
    {trouble : Option Trouble} {result : Except DiskError Unit} {written : Volume}
    (intact : area.Intact volume) (positive : 0 < pageSize) (fits : data.size = pageSize)
    (allocated : area.allocate volume trouble = .ok (slot, allotted, grown))
    (tried : allotted.disk.tryWrite grown slot data trouble = (result, written)) :
    Writes area volume key data ((result.mapError SwapError.disk).map fun _ => slot)
      (match result with
        | .ok () => { allotted with bindings := allotted.bindings.set key slot }
        | .error _ => { allotted with freeSlots := allotted.freeSlots.insert slot })
      written := by
  obtain ⟨allottedIntact, -, sameBindings, nobodys, notFree, storedSame⟩ :=
    of_allocate_eq_ok intact positive allocated
  have sameSlots : ∀ other, allotted.slotOf? other = area.slotOf? other := by
    intro other
    rw [slotOf?, slotOf?, sameBindings]
  obtain ⟨kept, others⟩ := @writes_slot _ _ _ allotted grown key _ _ _ _ _ allottedIntact
    positive fits (fun other _ => nobodys other) tried
  obtain ⟨length, -, reached⟩ := tryWrite_slot positive fits tried
  cases result with
  | ok =>
    obtain ⟨inside, content⟩ := reached rfl
    refine ⟨kept.bind nobodys notFree (length ▸ inside) key, ?_, ?_, ?_, ?_⟩
    · intro other differs
      exact (KeyedTable.find?_set_of_ne _ _ differs).trans (sameSlots other)
    · intro other differs
      rw [← storedSame, ← others other differs]
      exact congrArg _ (KeyedTable.find?_set_of_ne _ _ differs)
    · intro _ _
      rw [stored?, slotOf?, KeyedTable.find?_set_self]
      exact congrArg some content
    · intro _ failed
      cases failed
  | error error =>
    refine ⟨kept.giveBack nobodys, fun other _ => sameSlots other, ?_, ?_, fun _ _ => sameSlots key⟩
    · exact fun other differs => (others other differs).trans (storedSame other)
    · intro _ succeeded
      cases succeeded

/-- Every request to write keeps the pages apart, whatever trouble it runs
into. -/
theorem writes_write {data : Bytes} {trouble : Option Trouble}
    {outcome : Except SwapError Nat} {written : Volume} (intact : area.Intact volume)
    (positive : 0 < pageSize) (fits : data.size = pageSize)
    (done : area.write volume key data trouble = (outcome, next, written)) :
    Writes area volume key data outcome next written := by
  have refused : ∀ error, Writes area volume key data (.error error) area volume :=
    fun error => ⟨intact, fun _ _ => rfl, fun _ _ => rfl, (fun _ done => by cases done),
      fun _ _ => rfl⟩
  rw [write, if_neg (fun differs => differs fits)] at done
  split at done
  · obtain ⟨rfl, rfl, rfl⟩ := by simpa using done
    exact refused _
  split at done
  · rename_i slot bound
    split at done
    all_goals
      rename_i tried
      obtain ⟨rfl, rfl, rfl⟩ := by simpa using done
      exact writes_again intact positive fits bound tried
  · split at done
    · obtain ⟨rfl, rfl, rfl⟩ := by simpa using done
      exact refused _
    · rename_i allocated
      split at done
      all_goals
        rename_i tried
        obtain ⟨rfl, rfl, rfl⟩ := by simpa using done
        exact writes_first intact positive fits allocated tried

theorem slotOf?_releaseWhere (area : SwapArea Key pageSize) (selected : Key → Bool) (key : Key) :
    (area.releaseWhere selected).2.slotOf? key =
      if selected key then none else area.slotOf? key := by
  simp only [releaseWhere, slotOf?, List.partition_eq_filter_filter, Function.comp_def]
  rw [KeyedTable.find?_filter area.bindings (fun key => !selected key) key]
  cases selected key <;> rfl

theorem Intact.releaseWhere (intact : area.Intact volume) (selected : Key → Bool) :
    (area.releaseWhere selected).2.Intact volume := by
  have kept : ∀ key slot, (area.releaseWhere selected).2.slotOf? key = some slot →
      selected key = false ∧ area.slotOf? key = some slot := by
    intro key slot bound
    rw [slotOf?_releaseWhere] at bound
    cases chosen : selected key with
    | true => simp [chosen] at bound
    | false => exact ⟨rfl, by simpa [chosen] using bound⟩
  constructor
  case nodup_keys =>
    simp only [SwapArea.releaseWhere, List.partition_eq_filter_filter]
    exact KeyedTable.nodup_keys_filter intact.nodup_keys _
  case inside => exact fun key slot bound => intact.inside key slot (kept key slot bound).2
  case eq_of_slot =>
    intro first second slot firstBound secondBound
    exact intact.eq_of_slot first second slot (kept first slot firstBound).2
      (kept second slot secondBound).2
  case ascending => exact SlotSet.pairwise_insertAll intact.ascending _
  case unbound =>
    intro slot member key bound
    obtain ⟨spared, boundBefore⟩ := kept key slot bound
    simp only [SwapArea.releaseWhere, List.partition_eq_filter_filter] at member
    rcases (SlotSet.mem_insertAll _ _ _).mp member with released | free
    · obtain ⟨⟨other, otherSlot⟩, listed, same⟩ := List.mem_map.mp released
      obtain ⟨present, chosen⟩ := List.mem_filter.mp listed
      obtain rfl : otherSlot = slot := same
      have otherBound := (KeyedTable.mem_entries_iff intact.nodup_keys other otherSlot).mp present
      obtain rfl := intact.eq_of_slot key other otherSlot boundBefore otherBound
      rw [spared] at chosen
      cases chosen
    · exact intact.unbound slot free key boundBefore

theorem Intact.close {trouble : Option Trouble} {outcome : Except SwapError Unit}
    {closed : Volume} (intact : area.Intact volume)
    (done : area.close volume trouble = (outcome, next, closed)) :
    next.Intact closed ∧ (∀ key, next.slotOf? key = area.slotOf? key) ∧
      ∀ key, next.stored? closed key = area.stored? volume key := by
  obtain ⟨sealed, files⟩ := of_close_eq done
  have contents : ∀ file, closed.content file = volume.content file := by
    intro file
    rw [Volume.content, files]
    rfl
  have kept := intact.of_content_eq contents
  have stored : ∀ key, area.stored? closed key = area.stored? volume key := by
    intro key
    rw [stored?, stored?]
    refine Option.map_congr fun slot _ => ?_
    rw [slotContent, contents]
    rfl
  rcases sealed with rfl | rfl
  · exact ⟨kept, fun _ => rfl, stored⟩
  · exact ⟨{ kept with
      ascending := .nil
      unbound := fun slot member => absurd member List.not_mem_nil }, fun _ => rfl, stored⟩

end Requests

end SwapArea

end DemandPaging
