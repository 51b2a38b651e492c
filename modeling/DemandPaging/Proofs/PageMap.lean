import DemandPaging.Proofs.SwapRequests

/-!
# A swap area is a map of pages

The requests to a swap area alone tell which data every page should have: the
data that was written to it last, if it was not released since.  The area keeps
just that, although its slots are taken over by other pages and its file grows,
and once it is closed it refuses everything but to release pages.
-/

namespace DemandPaging

/-- Whether a request takes the slot of the page `key` away. -/
def SwapRequest.Releases {Key : Type} (key : Key) : SwapRequest Key → Prop
  | release other => other = key
  | releaseWhere selected => selected key = true
  | _ => False

/-- What the pages should be. -/
structure PageMap (Key : Type) where
  page? : Key → Option Bytes := fun _ => none
  closed : Bool := false

namespace PageMap

variable {Key : Type} [DecidableEq Key]

/-- The pages after one more request. -/
def follow (pageSize : Nat) (map : PageMap Key) : SwapRequest Key → PageMap Key
  | .write key data =>
    if map.closed = false ∧ data.size = pageSize then
      { map with page? := fun other => if other = key then some data else map.page? other }
    else
      map
  | .read _ _ => map
  | .release key => { map with page? := fun other => if other = key then none else map.page? other }
  | .releaseWhere selected =>
    { map with page? := fun key => if selected key then none else map.page? key }
  | .allocate => map
  | .free _ => map
  | .close => { map with closed := true }

/-- The pages after `requests`. -/
def after (pageSize : Nat) (map : PageMap Key) (requests : List (SwapRequest Key)) :
    PageMap Key :=
  requests.foldl (follow pageSize) map

theorem closed_follow_iff (pageSize : Nat) (map : PageMap Key) (request : SwapRequest Key) :
    (map.follow pageSize request).closed = true ↔ map.closed = true ∨ request = .close := by
  cases request with
  | write key data =>
    rw [follow]
    split
    · simp
    · simp
  | _ => simp [follow]

theorem closed_after_iff (pageSize : Nat) (map : PageMap Key)
    (requests : List (SwapRequest Key)) :
    (map.after pageSize requests).closed = true ↔ map.closed = true ∨ .close ∈ requests := by
  induction requests generalizing map with
  | nil => simp [after]
  | cons request rest ih =>
    have next := ih (map.follow pageSize request)
    rw [closed_follow_iff, or_assoc, eq_comm (a := request), ← List.mem_cons] at next
    exact next

end PageMap

namespace SwapUse

variable {Key : Type} {pageSize : Nat} [DecidableEq Key]

/-- What the users of a swap area can rely on when it has answered
`requests`. -/
structure FaithfulMap (use : SwapUse Key pageSize) (requests : List (SwapRequest Key))
    (map : PageMap Key) : Prop where
  /-- The pages that have a slot are the ones that were written and not released
  since. -/
  isSome_slotOf? : ∀ key, (use.area.slotOf? key).isSome = (map.page? key).isSome
  /-- A page that has a slot keeps it until it is released. -/
  slotOf?_after : ∀ key slot later, use.area.slotOf? key = some slot →
    (∀ request ∈ later, ¬ request.Releases key) → (use.after later).area.slotOf? key = some slot
  /-- The slot of a page shows what was written to the page last. -/
  reads : .close ∉ requests → ∀ key slot, use.area.slotOf? key = some slot →
    ∃ data, map.page? key = some data ∧
      use.serve (.read slot pageSize) = (.read (.ok data), use)
  writes : .close ∉ requests → ∀ key data, data.size = pageSize →
    ∃ slot next, use.serve (.write key data) = (.wrote (.ok slot), next) ∧
      next.area.slotOf? key = some slot
  writes_misfit : ∀ key data, data.size ≠ pageSize →
    use.serve (.write key data) = (.wrote (.error (.incorrectPageSize data.size)), use)
  releases : ∀ key, ∃ next,
    use.serve (.release key) = (.released (use.area.slotOf? key), next) ∧
      next.area.slotOf? key = none ∧
      ∀ other, other ≠ key → next.area.slotOf? other = use.area.slotOf? other
  releasesWhere : ∀ selected key, (use.serve (.releaseWhere selected)).2.area.slotOf? key =
    if selected key then none else use.area.slotOf? key
  closes : ∀ key, (use.serve .close).2.area.slotOf? key = use.area.slotOf? key
  closed_writes : .close ∈ requests → ∀ key data, data.size = pageSize →
    use.serve (.write key data) = (.wrote (.error .closed), use)
  closed_reads : .close ∈ requests → ∀ slot,
    use.serve (.read slot pageSize) = (.read (.error .closed), use)
  closed_allocates : .close ∈ requests →
    use.serve .allocate = (.allocated (.error .closed), use)

/-- The area keeps the pages of `map`. -/
structure Tracks (use : SwapUse Key pageSize) (map : PageMap Key) : Prop where
  intact : use.area.Intact use.volume
  closed_eq : use.area.closed = map.closed
  stored?_eq : ∀ key, use.area.stored? use.volume key = map.page? key
  balanced : use.area.closed = false → use.area.Balanced use.volume use.handedOut

section Steps

variable {use : SwapUse Key pageSize} {map : PageMap Key}

theorem Tracks.write (tracks : use.Tracks map) (positive : 0 < pageSize) (key : Key)
    (data : Bytes) :
    (use.serve (.write key data)).2.Tracks (map.follow pageSize (.write key data)) := by
  by_cases fits : data.size = pageSize
  · by_cases isOpen : use.area.closed = false
    · obtain ⟨slot, next, written, done, keeps⟩ :=
        (tracks.balanced isOpen).exists_write positive isOpen key fits
      have writes := SwapArea.writes_write tracks.intact positive fits done
      rw [serve_write done, PageMap.follow, if_pos ⟨tracks.closed_eq ▸ isOpen, fits⟩]
      refine ⟨writes.intact, ?_, ?_, fun _ => keeps.balanced⟩
      · rw [keeps.isOpen, ← tracks.closed_eq, isOpen]
      · intro other
        by_cases same : other = key
        · simp only [same, writes.stored slot rfl, if_true]
        · simp only [same, writes.stored?_other other same, if_false, tracks.stored?_eq]
    · have closed := Bool.eq_true_of_not_eq_false isOpen
      rw [serve_write_of_closed closed key fits, PageMap.follow,
        if_neg (fun writable => isOpen (tracks.closed_eq.trans writable.1))]
      exact tracks
  · rw [serve_write_of_size_ne fits, PageMap.follow, if_neg (fun writable => fits writable.2)]
    exact tracks

theorem Tracks.releaseWhere (tracks : use.Tracks map) (selected : Key → Bool) :
    (use.serve (.releaseWhere selected)).2.Tracks
      (map.follow pageSize (.releaseWhere selected)) where
  intact := tracks.intact.releaseWhere selected
  closed_eq := tracks.closed_eq
  stored?_eq key := by
    change ((use.area.releaseWhere selected).2.slotOf? key).map
      (use.area.slotContent use.volume) = if selected key then none else map.page? key
    rw [SwapArea.slotOf?_releaseWhere, ← tracks.stored?_eq]
    cases selected key <;> rfl
  balanced isOpen := (tracks.balanced isOpen).releaseWhere selected

/-- To release one page changes the map as releasing all pages that are this
one. -/
theorem follow_release (map : PageMap Key) (key : Key) :
    map.follow pageSize (.release key) =
      map.follow pageSize (.releaseWhere fun other => other = key) := by
  simp only [PageMap.follow, decide_eq_true_eq]

theorem Tracks.allocate (tracks : use.Tracks map) (positive : 0 < pageSize) :
    (use.serve .allocate).2.Tracks map := by
  by_cases isOpen : use.area.closed = false
  · obtain ⟨slot, next, grown, done, allocates⟩ :=
      (tracks.balanced isOpen).exists_allocate positive isOpen
    obtain ⟨intact, -, -, -, -, kept⟩ := SwapArea.of_allocate_eq_ok tracks.intact positive done
    rw [serve_allocate done]
    refine ⟨intact, ?_, fun key => (kept key).trans (tracks.stored?_eq key),
      fun _ => allocates.balanced⟩
    rw [allocates.isOpen, ← tracks.closed_eq, isOpen]
  · rw [serve_allocate_of_closed (Bool.eq_true_of_not_eq_false isOpen)]
    exact tracks

theorem Tracks.free (tracks : use.Tracks map) (slot : Nat) :
    (use.serve (.free slot)).2.Tracks map := by
  by_cases accepted : slot < use.area.slotCount ∧ ¬ ∃ key, use.area.slotOf? key = some slot
  · obtain ⟨known, nobodys⟩ := accepted
    rw [serve_free_ok tracks.intact known nobodys]
    exact ⟨tracks.intact.giveBack (not_exists.mp nobodys), tracks.closed_eq, tracks.stored?_eq,
      fun isOpen => (tracks.balanced isOpen).giveBack known nobodys⟩
  · rw [serve_free_error tracks.intact accepted]
    exact tracks

theorem Tracks.close (tracks : use.Tracks map) :
    (use.serve .close).2.Tracks (map.follow pageSize .close) := by
  have closed := use.area.closed_close use.volume none
  obtain ⟨intact, -, kept⟩ := tracks.intact.close rfl
  exact ⟨intact, closed, fun key => (kept key).trans (tracks.stored?_eq key),
    fun isOpen => Bool.noConfusion (closed.symm.trans isOpen)⟩

/-- Every request does to the area what it does to the map. -/
theorem Tracks.serve (tracks : use.Tracks map) (positive : 0 < pageSize)
    (request : SwapRequest Key) :
    (use.serve request).2.Tracks (map.follow pageSize request) := by
  cases request with
  | write key data => exact tracks.write positive key data
  | read slot size => exact tracks
  | release key =>
    rw [serve_release tracks.intact, follow_release]
    exact tracks.releaseWhere fun other => other = key
  | releaseWhere selected => exact tracks.releaseWhere selected
  | allocate => exact tracks.allocate positive
  | free slot => exact tracks.free slot
  | close => exact tracks.close

theorem Tracks.after (tracks : use.Tracks map) (positive : 0 < pageSize)
    (requests : List (SwapRequest Key)) :
    (use.after requests).Tracks (map.after pageSize requests) := by
  induction requests generalizing use map with
  | nil => exact tracks
  | cons request rest ih => exact ih (tracks.serve positive request)

theorem tracks_openNamed {volume opened : Volume} {name : String} {area : SwapArea Key pageSize}
    (consistent : volume.Consistent)
    (done : SwapArea.openNamed volume name = .ok (area, opened)) :
    Tracks { area := area, volume := opened } {} := by
  have running := running_openNamed consistent done
  refine ⟨running.balanced.toIntact, running.isOpen, fun key => ?_, fun _ => running.balanced⟩
  rw [SwapArea.stored?, SwapArea.slotOf?_of_empty (SwapArea.bindings_openNamed done).1]
  rfl

theorem slotOf?_serve_release (intact : use.area.Intact use.volume) (key other : Key) :
    (use.serve (.release key)).2.area.slotOf? other =
      if other = key then none else use.area.slotOf? other := by
  rw [serve_release intact]
  change (use.area.releaseWhere fun other => other = key).2.slotOf? other = _
  simp only [SwapArea.slotOf?_releaseWhere, decide_eq_true_eq]

/-- A page has its slot until it is released. -/
theorem Tracks.slotOf?_serve (tracks : use.Tracks map) (positive : 0 < pageSize) {key : Key}
    {slot : Nat} {request : SwapRequest Key} (bound : use.area.slotOf? key = some slot)
    (spared : ¬ request.Releases key) :
    (use.serve request).2.area.slotOf? key = some slot := by
  cases request with
  | write other data =>
    by_cases fits : data.size = pageSize
    · by_cases isOpen : use.area.closed = false
      · obtain ⟨otherSlot, next, written, done, keeps⟩ :=
          (tracks.balanced isOpen).exists_write positive isOpen other fits
        have writes := SwapArea.writes_write tracks.intact positive fits done
        rw [serve_write done]
        by_cases same : key = other
        · rcases keeps.source with ⟨-, rfl, -⟩ | ⟨unbound, -⟩
          · exact bound
          · rw [← same, bound] at unbound
            cases unbound
        · exact (writes.slotOf?_other key same).trans bound
      · rw [serve_write_of_closed (Bool.eq_true_of_not_eq_false isOpen) other fits]
        exact bound
    · rw [serve_write_of_size_ne fits]
      exact bound
  | read _ _ => exact bound
  | release other =>
    rw [slotOf?_serve_release tracks.intact, if_neg (fun same => spared same.symm), bound]
  | releaseWhere selected =>
    exact (SwapArea.slotOf?_releaseWhere use.area selected key).trans ((if_neg spared).trans bound)
  | allocate =>
    by_cases isOpen : use.area.closed = false
    · obtain ⟨allocated, next, grown, done, allocates⟩ :=
        (tracks.balanced isOpen).exists_allocate positive isOpen
      rw [serve_allocate done]
      exact (allocates.slotOf?_eq key).trans bound
    · rw [serve_allocate_of_closed (Bool.eq_true_of_not_eq_false isOpen)]
      exact bound
  | free other =>
    by_cases accepted : other < use.area.slotCount ∧ ¬ ∃ page, use.area.slotOf? page = some other
    · rw [serve_free_ok tracks.intact accepted.1 accepted.2]
      exact bound
    · rw [serve_free_error tracks.intact accepted]
      exact bound
  | close => exact ((tracks.intact.close rfl).2.1 key).trans bound

theorem Tracks.slotOf?_after (tracks : use.Tracks map) (positive : 0 < pageSize) {key : Key}
    {slot : Nat} {later : List (SwapRequest Key)} (bound : use.area.slotOf? key = some slot)
    (spared : ∀ request ∈ later, ¬ request.Releases key) :
    (use.after later).area.slotOf? key = some slot := by
  induction later generalizing use map with
  | nil => exact bound
  | cons request rest ih =>
    rw [List.forall_mem_cons] at spared
    exact ih (tracks.serve positive request) (tracks.slotOf?_serve positive bound spared.1)
      spared.2

/-- As long as the area is open, reading the slot of a page gives what the map
says about the page. -/
theorem Tracks.reads (tracks : use.Tracks map) (isOpen : use.area.closed = false) {key : Key}
    {slot : Nat} (bound : use.area.slotOf? key = some slot) :
    ∃ data, map.page? key = some data ∧
      use.serve (.read slot pageSize) = (.read (.ok data), use) := by
  have balanced := tracks.balanced isOpen
  have known := (balanced.lt_slotCount_iff slot).mpr (.inl ⟨key, bound⟩)
  refine ⟨use.area.slotContent use.volume slot, ?_, ?_⟩
  · rw [← tracks.stored?_eq, SwapArea.stored?, bound, Option.map_some]
  · rw [SwapUse.serve, balanced.read_eq_ok isOpen known]

end Steps

/-- After every run of requests, a swap area is a faithful map of pages. -/
theorem faithfulMap_after (positive : 0 < pageSize) {volume opened : Volume} {name : String}
    {area : SwapArea Key pageSize} (consistent : volume.Consistent)
    (done : SwapArea.openNamed volume name = .ok (area, opened))
    (requests : List (SwapRequest Key)) :
    FaithfulMap (after { area := area, volume := opened } requests) requests
      (PageMap.after pageSize {} requests) := by
  have tracks := (tracks_openNamed consistent done).after positive requests
  have closedIff := PageMap.closed_after_iff pageSize ({} : PageMap Key) requests
  rw [← tracks.closed_eq, Bool.false_eq_true, false_or] at closedIff
  have isOpen : .close ∉ requests →
      (after { area := area, volume := opened } requests).area.closed = false := by
    intro unclosed
    exact Bool.eq_false_of_not_eq_true (mt closedIff.mp unclosed)
  constructor
  case isSome_slotOf? =>
    intro key
    rw [← tracks.stored?_eq, SwapArea.stored?, Option.isSome_map]
  case slotOf?_after => exact fun key slot later => tracks.slotOf?_after positive
  case reads => exact fun unclosed key slot => tracks.reads (isOpen unclosed)
  case writes =>
    intro unclosed key data fits
    obtain ⟨slot, next, written, wrote, keeps⟩ :=
      (tracks.balanced (isOpen unclosed)).exists_write positive (isOpen unclosed) key fits
    exact ⟨slot, _, serve_write wrote, keeps.bound⟩
  case writes_misfit => exact fun key data misfit => serve_write_of_size_ne misfit key
  case releases =>
    intro key
    have slots := slotOf?_serve_release tracks.intact key
    refine ⟨_, serve_release tracks.intact key, ?_, ?_⟩
    · rw [serve_release tracks.intact] at slots
      rw [slots, if_pos rfl]
    · intro other differs
      rw [serve_release tracks.intact] at slots
      rw [slots, if_neg differs]
  case releasesWhere => exact fun selected => SwapArea.slotOf?_releaseWhere _ selected
  case closes => exact (tracks.intact.close rfl).2.1
  case closed_writes =>
    exact fun closed key data => serve_write_of_closed (closedIff.mpr closed) key
  case closed_reads => exact fun closed => serve_read_of_closed (closedIff.mpr closed)
  case closed_allocates => exact fun closed => serve_allocate_of_closed (closedIff.mpr closed)

/-- A page that takes over the slot of a released one, and a closed area. -/
theorem faithfulMap_after_close :
    ∃ (area : SwapArea Nat 4) (opened : Volume), 0 < 4 ∧ Volume.Consistent {} ∧
      SwapArea.openNamed {} "pages" = .ok (area, opened) ∧
      FaithfulMap
        (after { area := area, volume := opened }
          [.write 7 #[1, 2, 3, 4], .release 7, .write 8 #[5, 6, 7, 8], .close])
        [.write 7 #[1, 2, 3, 4], .release 7, .write 8 #[5, 6, 7, 8], .close]
        (PageMap.after 4 {}
          [.write 7 #[1, 2, 3, 4], .release 7, .write 8 #[5, 6, 7, 8], .close]) := by
  obtain ⟨area, opened, done⟩ := exists_openNamed_pages
  refine ⟨area, opened, by decide, Volume.consistent_empty, done, ?_⟩
  exact faithfulMap_after (by decide) Volume.consistent_empty done _

end SwapUse

end DemandPaging
