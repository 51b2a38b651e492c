import DemandPaging.Proofs.SlotBalance

/-!
# Requests to a swap area

A swap area in use takes one request after the other, none of which runs into
trouble.  An open area stays balanced; what the requests mean for the slots and
for the pages is said in the modules about slot accounting and page maps.
-/

namespace DemandPaging

/-- A request to a swap area. -/
inductive SwapRequest (Key : Type) where
  | write (key : Key) (data : Bytes)
  | read (slot size : Nat)
  | release (key : Key)
  | releaseWhere (selected : Key → Bool)
  | allocate
  | free (slot : Nat)
  | close

/-- What a swap area answers to a request. -/
inductive SwapAnswer where
  | wrote (outcome : Except SwapError Nat)
  | read (outcome : Except SwapError Bytes)
  | released (slot : Option Nat)
  | releasedAll (count : Nat)
  | allocated (outcome : Except SwapError Nat)
  | freed (outcome : Except SwapError Unit)
  | closed (outcome : Except SwapError Unit)

/-- Whether a request failed with an error. -/
def SwapAnswer.Fails : SwapAnswer → Prop
  | wrote outcome => ∃ error, outcome = .error error
  | read outcome => ∃ error, outcome = .error error
  | released _ => False
  | releasedAll _ => False
  | allocated outcome => ∃ error, outcome = .error error
  | freed outcome => ∃ error, outcome = .error error
  | closed outcome => ∃ error, outcome = .error error

/-- A swap area in use, with the slots that it handed out without a page and
that were not given back. -/
structure SwapUse (Key : Type) (pageSize : Nat) where
  area : SwapArea Key pageSize
  volume : Volume
  handedOut : Finset Nat := ∅

namespace SwapUse

variable {Key : Type} {pageSize : Nat} [DecidableEq Key]

/-- Answer one request. -/
def serve (use : SwapUse Key pageSize) : SwapRequest Key → SwapAnswer × SwapUse Key pageSize
  | .write key data =>
    let (outcome, area, volume) := use.area.write use.volume key data
    (.wrote outcome, { use with area := area, volume := volume })
  | .read slot size => (.read (use.area.read use.volume slot size), use)
  | .release key =>
    let (slot, area) := use.area.release key
    (.released slot, { use with area := area })
  | .releaseWhere selected =>
    let (count, area) := use.area.releaseWhere selected
    (.releasedAll count, { use with area := area })
  | .allocate =>
    match use.area.allocate use.volume with
    | .ok (slot, area, volume) =>
      (.allocated (.ok slot), ⟨area, volume, insert slot use.handedOut⟩)
    | .error error => (.allocated (.error error), use)
  | .free slot =>
    match use.area.free slot with
    | .ok area =>
      (.freed (.ok ()), { use with area := area, handedOut := use.handedOut.erase slot })
    | .error error => (.freed (.error error), use)
  | .close =>
    let (outcome, area, volume) := use.area.close use.volume
    (.closed outcome, { use with area := area, volume := volume })

/-- The state after a run of requests. -/
def after (use : SwapUse Key pageSize) (requests : List (SwapRequest Key)) :
    SwapUse Key pageSize :=
  requests.foldl (fun use request => (use.serve request).2) use

@[simp]
theorem after_nil (use : SwapUse Key pageSize) : use.after [] = use :=
  rfl

@[simp]
theorem after_cons (use : SwapUse Key pageSize) (request : SwapRequest Key)
    (requests : List (SwapRequest Key)) :
    use.after (request :: requests) = (use.serve request).2.after requests :=
  rfl

theorem after_append (use : SwapUse Key pageSize) (earlier later : List (SwapRequest Key)) :
    use.after (earlier ++ later) = (use.after earlier).after later :=
  List.foldl_append

/-- The area is open, and its slots are accounted for. -/
structure Running (use : SwapUse Key pageSize) : Prop where
  balanced : use.area.Balanced use.volume use.handedOut
  isOpen : use.area.closed = false

/-- How a request changes the number of slots of an open area: not at all, or
by the one slot that it takes when none is free. -/
inductive Resizes (use next : SwapUse Key pageSize) : Prop
  | keep (slotCount : next.area.slotCount = use.area.slotCount)
  | extend (full : use.area.freeSlots.slots = []) (stillFull : next.area.freeSlots.slots = [])
      (slotCount : next.area.slotCount = use.area.slotCount + 1)

section Steps

variable {use : SwapUse Key pageSize}

omit [DecidableEq Key] in
theorem Resizes.of_draws {next : SwapUse Key pageSize} {slot : Nat}
    (draws : use.area.Draws use.volume slot next.area next.volume)
    (freeIff : ∀ other, other ∈ next.area.freeSlots.slots ↔
      other ∈ use.area.freeSlots.slots ∧ other ≠ slot) : Resizes use next := by
  cases draws with
  | reuse _ _ slotCount _ => exact .keep slotCount
  | extend full _ slotCount _ =>
    refine .extend full (List.eq_nil_iff_forall_not_mem.mpr fun other member => ?_) slotCount
    have wasFree := ((freeIff other).mp member).1
    rw [full] at wasFree
    exact List.not_mem_nil wasFree

theorem serve_write {key : Key} {data : Bytes} {outcome : Except SwapError Nat}
    {next : SwapArea Key pageSize} {written : Volume}
    (done : use.area.write use.volume key data = (outcome, next, written)) :
    use.serve (.write key data) = (.wrote outcome, ⟨next, written, use.handedOut⟩) := by
  simp only [serve, done]

theorem serve_allocate {slot : Nat} {next : SwapArea Key pageSize} {grown : Volume}
    (done : use.area.allocate use.volume = .ok (slot, next, grown)) :
    use.serve .allocate = (.allocated (.ok slot), ⟨next, grown, insert slot use.handedOut⟩) := by
  simp only [serve, done]

/-- A buffer that is no page changes nothing. -/
theorem serve_write_of_size_ne {data : Bytes} (misfit : data.size ≠ pageSize) (key : Key) :
    use.serve (.write key data) = (.wrote (.error (.incorrectPageSize data.size)), use) := by
  rw [serve, SwapArea.write, if_pos misfit]

theorem serve_write_of_closed (closed : use.area.closed = true) (key : Key) {data : Bytes}
    (fits : data.size = pageSize) :
    use.serve (.write key data) = (.wrote (.error .closed), use) := by
  rw [serve, SwapArea.write, if_neg (fun differs => differs fits), if_pos closed]

theorem serve_read_of_closed (closed : use.area.closed = true) (slot : Nat) :
    use.serve (.read slot pageSize) = (.read (.error .closed), use) := by
  rw [serve, SwapArea.read, if_neg (fun differs => differs rfl), if_pos closed]

theorem serve_allocate_of_closed (closed : use.area.closed = true) :
    use.serve .allocate = (.allocated (.error .closed), use) := by
  rw [serve, SwapArea.allocate, if_pos closed]

/-- Releasing one page is releasing all pages that are this one. -/
theorem serve_release {whole : Volume} (intact : use.area.Intact whole) (key : Key) :
    use.serve (.release key) = (.released (use.area.slotOf? key),
      (use.serve (.releaseWhere fun other => other = key)).2) := by
  simp only [serve, intact.release_eq key]

theorem serve_free_ok {whole : Volume} (intact : use.area.Intact whole) {slot : Nat}
    (known : slot < use.area.slotCount) (nobodys : ¬ ∃ key, use.area.slotOf? key = some slot) :
    use.serve (.free slot) = (.freed (.ok ()), { use with
      area := { use.area with freeSlots := use.area.freeSlots.insert slot }
      handedOut := use.handedOut.erase slot }) := by
  simp only [serve, intact.free_eq_ok known nobodys]

theorem serve_free_error {whole : Volume} (intact : use.area.Intact whole) {slot : Nat}
    (refused : ¬ (slot < use.area.slotCount ∧ ¬ ∃ key, use.area.slotOf? key = some slot)) :
    use.serve (.free slot) = (.freed (.error (.unknownSlot slot)), use) := by
  simp only [serve, intact.free_eq_error refused]

theorem Running.releaseWhere (running : use.Running) (selected : Key → Bool) :
    (use.serve (.releaseWhere selected)).2.Running where
  balanced := running.balanced.releaseWhere selected
  isOpen := running.isOpen

/-- A request other than to close leaves the area open and balanced. -/
theorem Running.serve (running : use.Running) (positive : 0 < pageSize)
    {request : SwapRequest Key} (staysOpen : request ≠ .close) :
    (use.serve request).2.Running ∧ Resizes use (use.serve request).2 := by
  have balanced := running.balanced
  have isOpen := running.isOpen
  cases request with
  | write key data =>
    by_cases fits : data.size = pageSize
    · obtain ⟨slot, next, written, done, keeps⟩ :=
        balanced.exists_write positive isOpen key fits
      rw [serve_write done]
      refine ⟨⟨keeps.balanced, keeps.isOpen⟩, ?_⟩
      rcases keeps.source with ⟨-, rfl, -⟩ | ⟨-, draws, freeIff⟩
      · exact .keep rfl
      · exact .of_draws draws freeIff
    · rw [serve_write_of_size_ne fits]
      exact ⟨running, .keep rfl⟩
  | read slot size => exact ⟨running, .keep rfl⟩
  | release key =>
    rw [serve_release balanced.toIntact]
    exact ⟨running.releaseWhere fun other => other = key, .keep rfl⟩
  | releaseWhere selected => exact ⟨running.releaseWhere selected, .keep rfl⟩
  | allocate =>
    obtain ⟨slot, next, grown, done, allocates⟩ := balanced.exists_allocate positive isOpen
    rw [serve_allocate done]
    exact ⟨⟨allocates.balanced, allocates.isOpen⟩,
      .of_draws allocates.draws allocates.mem_freeSlots_iff⟩
  | free slot =>
    by_cases accepted : slot < use.area.slotCount ∧ ¬ ∃ key, use.area.slotOf? key = some slot
    · rw [serve_free_ok balanced.toIntact accepted.1 accepted.2]
      exact ⟨⟨balanced.giveBack accepted.1 accepted.2, isOpen⟩, .keep rfl⟩
    · rw [serve_free_error balanced.toIntact accepted]
      exact ⟨running, .keep rfl⟩
  | close => exact absurd rfl staysOpen

theorem Running.after (running : use.Running) (positive : 0 < pageSize)
    {requests : List (SwapRequest Key)} (staysOpen : .close ∉ requests) :
    (use.after requests).Running := by
  induction requests generalizing use with
  | nil => exact running
  | cons request rest ih =>
    rw [List.mem_cons, not_or] at staysOpen
    exact ih (running.serve positive (Ne.symm staysOpen.1)).1 staysOpen.2

theorem running_openNamed {volume opened : Volume} {name : String}
    {area : SwapArea Key pageSize} (consistent : volume.Consistent)
    (done : SwapArea.openNamed volume name = .ok (area, opened)) :
    Running { area := area, volume := opened } :=
  have ⟨balanced, isOpen, _⟩ := SwapArea.balanced_openNamed consistent done
  ⟨balanced, isOpen⟩

end Steps

omit [DecidableEq Key] in
/-- A directory without files has room for a swap area. -/
theorem exists_openNamed_pages : ∃ (area : SwapArea Key pageSize) (opened : Volume),
    SwapArea.openNamed {} "pages" = .ok (area, opened) := by
  have name : Disk.imageName "pages" = "DISK_IMAGE_pages" := by cbv
  apply SwapArea.exists_openNamed_eq_ok
  rw [name]
  rfl

end SwapUse

end DemandPaging
