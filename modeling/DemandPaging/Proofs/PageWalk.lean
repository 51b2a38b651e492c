import DemandPaging.Proofs.Transfers

/-!
# How a walk cuts its range

A walk asks its copy to deal with one part of the range after the other.  The
parts lie side by side, each inside one page, and none of them goes beyond the
last address: the addresses are a whole number of pages, so that a part that
begins inside them also ends there.
-/

namespace DemandPaging

/-- All addresses together are a whole number of pages. -/
theorem dvd_addressLimit {pageSize : Nat} (power : pageSize.isPowerOfTwo)
    (small : pageSize ≤ addressLimit) : pageSize ∣ addressLimit := by
  obtain ⟨exponent, rfl⟩ := power
  have limit : addressLimit = 2 ^ 64 := rfl
  rw [limit] at small ⊢
  exact Nat.pow_dvd_pow 2 ((Nat.pow_le_pow_iff_right (by decide)).mp small)

/-- A page that begins inside the addresses ends inside them. -/
theorem page_ends_of_dvd {pageSize vpn : Nat} (whole : pageSize ∣ addressLimit)
    (starts : vpn * pageSize < addressLimit) : (vpn + 1) * pageSize ≤ addressLimit := by
  obtain ⟨pages, limit⟩ := whole
  rw [limit, Nat.mul_comm pageSize] at starts ⊢
  exact Nat.mul_le_mul_right _ (Nat.lt_of_mul_lt_mul_right starts)

namespace Chunk

variable {pageSize address length done : Nat}

/-- The positions in the range that a part holds. -/
def positions (chunk : Chunk) : List Nat :=
  List.range' chunk.start chunk.count

/-- A part that is not the last one goes to the end of its page. -/
theorem next_reaches (positive : 0 < pageSize)
    (unfinished : done + (next pageSize address length done).count < length) :
    address + (done + (next pageSize address length done).count) =
      ((next pageSize address length done).vpn + 1) * pageSize := by
  have start := @next_address pageSize address length done
  rw [Nat.succ_mul]
  have inside : (address + done) % pageSize < pageSize := Nat.mod_lt _ positive
  simp only [next, splitAddress] at unfinished start ⊢
  omega

/-- A part that begins inside the addresses ends inside them. -/
theorem next_addressed (positive : 0 < pageSize) (whole : pageSize ∣ addressLimit)
    (inside : address + done < addressLimit) :
    address + (done + (next pageSize address length done).count) ≤ addressLimit := by
  have start := @next_address pageSize address length done
  have ends := next_inside positive address length done
  have page := page_ends_of_dvd whole
    (show (next pageSize address length done).vpn * pageSize < addressLimit by omega)
  rw [Nat.succ_mul] at page
  omega

end Chunk

/-- A call that a walk makes to its copy. -/
structure CopyCall (State : Type) where
  chunk : Chunk
  /-- The state that the call finds. -/
  state : State
  outcome : Except PagingError Unit

section Walks

variable {State : Type} {pageSize address length done : Nat}
  {copy : Chunk → State → Except PagingError Unit × State} {state last : State}
  {calls : List (CopyCall State)} {transfer : Transfer}

/-- Copy as `copy` does, and write down each call after those made before. -/
def recording (copy : Chunk → State → Except PagingError Unit × State) (chunk : Chunk)
    (state : State × List (CopyCall State)) :
    Except PagingError Unit × State × List (CopyCall State) :=
  let (outcome, next) := copy chunk state.1
  (outcome, next, state.2 ++ [{ chunk := chunk, state := state.1, outcome := outcome }])

/-- The calls that a walk makes to its copy, in order. -/
def copyCalls (positive : 0 < pageSize) (address length : Nat)
    (copy : Chunk → State → Except PagingError Unit × State) (state : State) :
    List (CopyCall State) :=
  (walk positive address length (recording copy) (state, [])).2.2

/-- The parts that were copied. -/
def copiedChunks (calls : List (CopyCall State)) : List Chunk :=
  (calls.filter fun call => call.outcome.isOk).map CopyCall.chunk

/-- What a walk does that has dealt with the first `done` bytes: the calls that
are still to come, and how they end. -/
inductive Walks (pageSize address length : Nat)
    (copy : Chunk → State → Except PagingError Unit × State) :
    Nat → State → List (CopyCall State) → Transfer → State → Prop where
  | ends {done : Nat} {state : State} (finished : length ≤ done) :
      Walks pageSize address length copy done state [] ⟨done, none⟩ state
  | beyond {done : Nat} {state : State} (unfinished : done < length)
      (outside : addressLimit ≤ address + done) :
      Walks pageSize address length copy done state []
        ⟨done, some (.invalidAddress (addressLimit - 1))⟩ state
  | stops {done : Nat} {state failed : State} {error : PagingError} (unfinished : done < length)
      (inside : address + done < addressLimit)
      (copied : copy (Chunk.next pageSize address length done) state = (.error error, failed)) :
      Walks pageSize address length copy done state
        [⟨Chunk.next pageSize address length done, state, .error error⟩] ⟨done, some error⟩ failed
  | goesOn {done : Nat} {state moved last : State} {calls : List (CopyCall State)}
      {transfer : Transfer} (unfinished : done < length)
      (inside : address + done < addressLimit)
      (copied : copy (Chunk.next pageSize address length done) state = (.ok (), moved))
      (rest : Walks pageSize address length copy
        (done + (Chunk.next pageSize address length done).count) moved calls transfer last) :
      Walks pageSize address length copy done state
        (⟨Chunk.next pageSize address length done, state, .ok ()⟩ :: calls) transfer last

/-- Writing down the calls changes nothing about a walk. -/
theorem walks_walkFrom (positive : 0 < pageSize) (earlier : List (CopyCall State)) :
    ∃ calls,
      walkFrom positive address length (recording copy) done (state, earlier) =
        ((walkFrom positive address length copy done state).1,
          (walkFrom positive address length copy done state).2, earlier ++ calls) ∧
      Walks pageSize address length copy done state calls
        (walkFrom positive address length copy done state).1
        (walkFrom positive address length copy done state).2 := by
  -- The calls written down before do not matter, but each step adds to them.
  fun_induction walkFrom positive address length copy done state generalizing earlier with
  | case1 done state unfinished outside =>
    refine ⟨[], ?_, .beyond unfinished outside⟩
    rw [walkFrom, dif_pos unfinished, if_pos outside, List.append_nil]
  | case2 done state unfinished inside chunk _ error failed copied =>
    refine ⟨[⟨chunk, state, .error error⟩], ?_,
      .stops unfinished (Nat.lt_of_not_le inside) copied⟩
    rw [walkFrom, dif_pos unfinished, if_neg inside]
    change copy (Chunk.next pageSize address length done) state = _ at copied
    simp only [recording, copied]
    rfl
  | case3 done state unfinished inside chunk _ moved copied ih =>
    change copy (Chunk.next pageSize address length done) state = _ at copied
    obtain ⟨calls, recorded, walks⟩ := ih (earlier ++ [⟨chunk, state, .ok ()⟩])
    refine ⟨⟨chunk, state, .ok ()⟩ :: calls, ?_,
      .goesOn unfinished (Nat.lt_of_not_le inside) copied walks⟩
    rw [walkFrom, dif_pos unfinished, if_neg inside]
    rw [List.append_cons]
    simp only [recording, copied]
    exact recorded
  | case4 done state finished =>
    refine ⟨[], ?_, .ends (Nat.le_of_not_lt finished)⟩
    rw [walkFrom, dif_neg finished, List.append_nil]

theorem walk_recording (positive : 0 < pageSize) (address length : Nat)
    (copy : Chunk → State → Except PagingError Unit × State) (state : State) :
    walk positive address length (recording copy) (state, []) =
        ((walk positive address length copy state).1,
          (walk positive address length copy state).2,
          copyCalls positive address length copy state) ∧
      Walks pageSize address length copy 0 state (copyCalls positive address length copy state)
        (walk positive address length copy state).1
        (walk positive address length copy state).2 := by
  obtain ⟨calls, recorded, walks⟩ :=
    @walks_walkFrom _ _ address length 0 copy state positive []
  have same : copyCalls positive address length copy state = calls := by
    rw [copyCalls, walk, recorded, List.nil_append]
  rw [same]
  exact ⟨recorded, walks⟩

namespace Walks

theorem unfinished_of_ne_nil
    (walks : Walks pageSize address length copy done state calls transfer last)
    (some : calls ≠ []) : done < length := by
  cases walks with
  | ends finished => exact absurd rfl some
  | beyond unfinished outside => exact unfinished
  | stops unfinished inside copied => exact unfinished
  | goesOn unfinished inside copied rest => exact unfinished

/-- Each call is made for the part that begins where the bytes moved so far end,
and what comes of it is up to the copy. -/
theorem of_mem (walks : Walks pageSize address length copy done state calls transfer last) :
    ∀ call ∈ calls, call.chunk = Chunk.next pageSize address length call.chunk.start ∧
      call.chunk.start < length ∧ address + call.chunk.start < addressLimit ∧
      call.outcome = (copy call.chunk call.state).1 := by
  induction walks with
  | ends finished => exact List.forall_mem_nil _
  | beyond unfinished outside => exact List.forall_mem_nil _
  | stops unfinished inside copied =>
    rw [List.forall_mem_singleton]
    exact ⟨rfl, unfinished, inside, (congrArg Prod.fst copied).symm⟩
  | goesOn unfinished inside copied rest ih =>
    rw [List.forall_mem_cons]
    exact ⟨⟨rfl, unfinished, inside, (congrArg Prod.fst copied).symm⟩, ih⟩

/-- The parts that are copied hold the bytes moved, in order. -/
theorem positions_eq
    (walks : Walks pageSize address length copy done state calls transfer last) :
    ∃ count, transfer.moved = done + count ∧
      (copiedChunks calls).flatMap Chunk.positions = List.range' done count := by
  induction walks with
  | ends finished => exact ⟨0, rfl, rfl⟩
  | beyond unfinished outside => exact ⟨0, rfl, rfl⟩
  | stops unfinished inside copied => exact ⟨0, rfl, rfl⟩
  | @goesOn done state moved last calls transfer unfinished inside copied rest ih =>
    obtain ⟨count, reached, covered⟩ := ih
    refine ⟨(Chunk.next pageSize address length done).count + count, ?_, ?_⟩
    · rw [reached, Nat.add_assoc]
    · change Chunk.positions (Chunk.next pageSize address length done) ++
        (copiedChunks calls).flatMap Chunk.positions = _
      rw [covered]
      exact List.range'_append_1

/-- A call is followed by another one only if it succeeds and its part goes to
the end of its page. -/
theorem of_mem_dropLast (positive : 0 < pageSize)
    (walks : Walks pageSize address length copy done state calls transfer last) :
    ∀ call ∈ calls.dropLast, call.outcome = .ok () ∧
      pageSize ∣ address + (call.chunk.start + call.chunk.count) := by
  induction walks with
  | ends finished => exact List.forall_mem_nil _
  | beyond unfinished outside => exact List.forall_mem_nil _
  | stops unfinished inside copied => exact List.forall_mem_nil _
  | @goesOn done state moved last calls transfer unfinished inside copied rest ih =>
    by_cases only : calls = []
    · subst only
      exact List.forall_mem_nil _
    · have reached := Chunk.next_reaches positive (rest.unfinished_of_ne_nil only)
      rw [List.dropLast_cons_of_ne_nil only, List.forall_mem_cons]
      exact ⟨⟨rfl, reached ▸ Nat.dvd_mul_left pageSize _⟩, ih⟩

/-- The walk stops at the first call that fails and reports where its part
begins. -/
theorem of_outcome_eq_error
    (walks : Walks pageSize address length copy done state calls transfer last) :
    ∀ call ∈ calls, ∀ error, call.outcome = .error error →
      transfer = ⟨call.chunk.start, some error⟩ := by
  induction walks with
  | ends finished => exact List.forall_mem_nil _
  | beyond unfinished outside => exact List.forall_mem_nil _
  | stops unfinished inside copied =>
    rw [List.forall_mem_singleton]
    intro error failed
    obtain rfl := Except.error.inj failed
    rfl
  | goesOn unfinished inside copied rest ih =>
    rw [List.forall_mem_cons]
    refine ⟨?_, ih⟩
    rintro error ⟨⟩

/-- If no call fails, the walk ends at the end of its range or at the end of the
addresses, whichever comes first. -/
theorem transfer_eq (positive : 0 < pageSize) (whole : pageSize ∣ addressLimit)
    (walks : Walks pageSize address length copy done state calls transfer last)
    (within : done ≤ length) (inside : address + done ≤ addressLimit)
    (succeed : ∀ call ∈ calls, call.outcome = .ok ()) :
    transfer = if address + length ≤ addressLimit then ⟨length, none⟩
      else ⟨addressLimit - address, some (.invalidAddress (addressLimit - 1))⟩ := by
  induction walks with
  | ends finished =>
    obtain rfl := Nat.le_antisymm within finished
    rw [if_pos inside]
  | @beyond done state unfinished outside =>
    -- No part has crossed the end of the addresses, so the parts copied reach it exactly.
    rw [if_neg (by omega), show addressLimit - address = done by omega]
  | stops unfinished inside copied =>
    rw [List.forall_mem_singleton] at succeed
    cases succeed
  | goesOn unfinished begins copied rest ih =>
    rw [List.forall_mem_cons] at succeed
    exact ih (Chunk.next_ends address unfinished) (Chunk.next_addressed positive whole begins)
      succeed.2

/-- The calls go through the pages one after the other. -/
theorem vpns_eq (positive : 0 < pageSize)
    (walks : Walks pageSize address length copy done state calls transfer last) :
    calls.map (fun call => call.chunk.vpn) =
      List.range' ((address + done) / pageSize) calls.length := by
  induction walks with
  | ends finished => rfl
  | beyond unfinished outside => rfl
  | stops unfinished inside copied => rfl
  | @goesOn done state moved last calls transfer unfinished inside copied rest ih =>
    rw [List.map_cons, List.length_cons, List.range'_succ]
    refine congrArg _ ?_
    by_cases only : calls = []
    · subst only
      rfl
    · have reached := Chunk.next_reaches positive (rest.unfinished_of_ne_nil only)
      rw [ih, reached, Nat.mul_div_cancel _ positive]
      rfl

theorem length_le (positive : 0 < pageSize)
    (walks : Walks pageSize address length copy done state calls transfer last) :
    calls.length ≤ length - done := by
  induction walks with
  | ends finished => exact Nat.zero_le _
  | beyond unfinished outside => exact Nat.zero_le _
  | stops unfinished inside copied => exact Nat.sub_pos_of_lt unfinished
  | goesOn unfinished inside copied rest ih =>
    have some := Chunk.next_count_pos positive address unfinished
    rw [List.length_cons]
    omega

end Walks

end Walks

/-- The calls of a walk over `length` bytes at `address` cut the bytes that were
moved into parts, page by page. -/
structure TilesRange {State : Type} (pageSize address length : Nat)
    (calls : List (CopyCall State)) (transfer : Transfer) : Prop where
  /-- One after the other, the parts copied hold each position once. -/
  positions : (copiedChunks calls).flatMap Chunk.positions = List.range transfer.moved
  nonempty : ∀ call ∈ calls,
    0 < call.chunk.count ∧ call.chunk.start + call.chunk.count ≤ length
  inPage : ∀ call ∈ calls,
    call.chunk.vpn * pageSize + call.chunk.offset = address + call.chunk.start ∧
      call.chunk.offset + call.chunk.count ≤ pageSize
  /-- No part goes beyond the last address. -/
  addressed : ∀ call ∈ calls,
    address + (call.chunk.start + call.chunk.count) ≤ addressLimit
  /-- All parts but the last are copied and end where a page ends. -/
  followed : ∀ call ∈ calls.dropLast, call.outcome = .ok () ∧
    pageSize ∣ address + (call.chunk.start + call.chunk.count)
  pages : calls.map (fun call => call.chunk.vpn) = List.range' (address / pageSize) calls.length
  length_le : calls.length ≤ length
  refused : ∀ call ∈ calls, ∀ error, call.outcome = .error error →
    transfer = ⟨call.chunk.start, some error⟩
  complete : (∀ call ∈ calls, call.outcome = .ok ()) →
    transfer = if address + length ≤ addressLimit then ⟨length, none⟩
      else ⟨addressLimit - address, some (.invalidAddress (addressLimit - 1))⟩

/-- Whatever the copy does, the calls of a walk tile its range. -/
theorem tilesRange_walk {State : Type} {pageSize address : Nat} (positive : 0 < pageSize)
    (power : pageSize.isPowerOfTwo) (small : pageSize < addressLimit)
    (addressed : address < addressLimit) (length : Nat)
    (copy : Chunk → State → Except PagingError Unit × State) (state : State) :
    walk positive address length (recording copy) (state, []) =
        ((walk positive address length copy state).1,
          (walk positive address length copy state).2,
          copyCalls positive address length copy state) ∧
      TilesRange pageSize address length (copyCalls positive address length copy state)
        (walk positive address length copy state).1 := by
  obtain ⟨recorded, walks⟩ := walk_recording positive address length copy state
  have whole := dvd_addressLimit power (Nat.le_of_lt small)
  refine ⟨recorded, ?_⟩
  constructor
  case positions =>
    obtain ⟨count, moved, covered⟩ := walks.positions_eq
    rw [covered, moved, Nat.zero_add, List.range_eq_range']
  case nonempty =>
    intro call member
    obtain ⟨part, unfinished, -⟩ := walks.of_mem call member
    rw [part]
    exact ⟨Chunk.next_count_pos positive address unfinished, Chunk.next_ends address unfinished⟩
  case inPage =>
    intro call member
    obtain ⟨part, -⟩ := walks.of_mem call member
    rw [part]
    exact ⟨Chunk.next_address address length _, Chunk.next_inside positive address length _⟩
  case addressed =>
    intro call member
    obtain ⟨part, -, begins, -⟩ := walks.of_mem call member
    rw [part]
    exact Chunk.next_addressed positive whole begins
  case followed => exact walks.of_mem_dropLast positive
  case pages => exact walks.vpns_eq positive
  case length_le => exact walks.length_le positive
  case refused => exact walks.of_outcome_eq_error
  case complete =>
    exact walks.transfer_eq positive whole (Nat.zero_le length) (Nat.le_of_lt addressed)

/-- Ten bytes at six bytes before the end of the addresses. -/
theorem tilesRange_walk_beyond :
    Nat.isPowerOfTwo 4 ∧ 4 < addressLimit ∧ addressLimit - 6 < addressLimit ∧
      TilesRange 4 (addressLimit - 6) 10
        (copyCalls (by decide : 0 < 4) (addressLimit - 6) 10 (fun _ state => (.ok (), state)) ())
        (walk (by decide : 0 < 4) (addressLimit - 6) 10 (fun _ state => (.ok (), state)) ()).1 :=
  ⟨by decide, by decide, by decide,
    (tilesRange_walk (by decide : 0 < 4) (by decide) (by decide) (by decide) 10 _ ()).2⟩

end DemandPaging
