import DemandPaging.Proofs.StoreCalls

/-!
# Swap stores beside each other

Several swap stores work in one directory, each under its own name and each
asked by a party of its own, in any order.  As long as the names of their files
differ, no party can tell that the others are there.  Different stores may have
files of the same name, since a hyphen in a name counts as an underscore; such
stores spoil each other's files.
-/

namespace DemandPaging

/-- Swap stores of several parties in one directory, each for pages of its own
kind and size. -/
structure SwapStores {Party : Type} (Key : Party → Type) (pageSize : Party → Nat) where
  volume : Volume := {}
  area? : ∀ party, Option (SwapArea (Key party) (pageSize party)) := fun _ => none

namespace SwapStores

variable {Party : Type} [DecidableEq Party] {Key : Party → Type} {pageSize : Party → Nat}
  [∀ party, DecidableEq (Key party)]

/-- Answer one call of the store of a party. -/
def call (names : Party → String) (stores : SwapStores Key pageSize) (party : Party)
    (call : StoreCall (Key party)) : StoreAnswer × SwapStores Key pageSize :=
  let (answer, area?, volume) :=
    SwapArea.callNamed (names party) (stores.area? party) stores.volume call
  (answer, ⟨volume, Function.update stores.area? party area?⟩)

/-- What the parties are answered in a run of calls. -/
def answers (names : Party → String) (stores : SwapStores Key pageSize) :
    List ((party : Party) × StoreCall (Key party)) → List (Party × StoreAnswer)
  | [] => []
  | ⟨party, call⟩ :: rest =>
    let (answer, next) := stores.call names party call
    (party, answer) :: next.answers names rest

/-- What `party` is answered in a run of calls. -/
def answersTo (names : Party → String) (stores : SwapStores Key pageSize) (party : Party)
    (calls : List ((party : Party) × StoreCall (Key party))) : List StoreAnswer :=
  ((stores.answers names calls).filter fun answer => answer.1 = party).map Prod.snd

/-- A run of calls goes for `party` as if no other store existed. -/
def Undisturbed (names : Party → String) (stores : SwapStores Key pageSize) (party : Party)
    (calls : List ((party : Party) × StoreCall (Key party))) : Prop :=
  stores.answersTo names party calls =
    stores.answersTo names party (calls.filter fun call => call.1 = party)

end SwapStores

namespace SwapStores

variable {Party : Type} [DecidableEq Party] {Key : Party → Type} {pageSize : Party → Nat}
  [∀ party, DecidableEq (Key party)] {names : Party → String}

/-- Every store has the name of its party, and the file behind it is labelled with
the name that files of this store have. -/
structure Settled (names : Party → String) (stores : SwapStores Key pageSize)
    (label : FileNumber → String) : Prop where
  labelled : stores.volume.Labelled label
  name_eq : ∀ party area, stores.area? party = some area → area.disk.name = names party
  own : ∀ party file, SwapArea.file? (stores.area? party) = some file →
    file < stores.volume.files.size ∧ label file = Disk.imageName (names party)

section Steps

variable {stores alone : SwapStores Key pageSize} {label aloneLabel : FileNumber → String}
  {party : Party}

theorem Settled.call (settled : stores.Settled names label) (party : Party)
    (call : StoreCall (Key party)) :
    ∃ relabel, (stores.call names party call).2.Settled names relabel := by
  obtain ⟨named, affects⟩ :=
    SwapArea.affects_callNamed (settled.name_eq party) stores.volume call
  obtain ⟨relabel, labelled, kept, own⟩ := affects.labelled settled.labelled (settled.own party)
  refine ⟨relabel, labelled, ?_, ?_⟩
  · intro other area opened
    by_cases same : other = party
    · subst other
      simp only [SwapStores.call, Function.update_self] at opened
      exact named area opened
    · simp only [SwapStores.call, Function.update_of_ne same] at opened
      exact settled.name_eq other area opened
  · intro other file behind
    by_cases same : other = party
    · subst other
      simp only [SwapStores.call, Function.update_self] at behind
      exact own file behind
    · simp only [SwapStores.call, Function.update_of_ne same] at behind
      obtain ⟨present, label_eq⟩ := settled.own other file behind
      exact ⟨Nat.lt_of_lt_of_le present affects.size_le, (kept file present).trans label_eq⟩

/-- What one party sees stays the same when another one calls its store. -/
theorem Settled.sees_of_ne (settled : stores.Settled names label) {other : Party}
    (apart : Disk.imageName (names other) ≠ Disk.imageName (names party)) (differs : other ≠ party)
    (sees : SwapArea.SeesAlike (names party) stores.volume alone.volume (stores.area? party)
      (alone.area? party)) (call : StoreCall (Key other)) :
    SwapArea.SeesAlike (names party) (stores.call names other call).2.volume alone.volume
      ((stores.call names other call).2.area? party) (alone.area? party) := by
  obtain ⟨-, affects⟩ := SwapArea.affects_callNamed (settled.name_eq other) stores.volume call
  have spares := affects.spares settled.labelled
    (fun file behind => (settled.own other file behind).2) apart
  simp only [SwapStores.call, Function.update_of_ne differs.symm]
  apply sees.of_spares spares
  intro area opened
  exact (settled.own party area.disk.file (by rw [opened]; rfl)).2

theorem answersTo_cons_self (stores : SwapStores Key pageSize) (call : StoreCall (Key party))
    (rest : List ((party : Party) × StoreCall (Key party))) :
    stores.answersTo names party (⟨party, call⟩ :: rest) =
      (stores.call names party call).1 ::
        (stores.call names party call).2.answersTo names party rest := by
  simp [answersTo, answers]

theorem answersTo_cons_of_ne (stores : SwapStores Key pageSize) {caller : Party}
    (differs : caller ≠ party) (call : StoreCall (Key caller))
    (rest : List ((party : Party) × StoreCall (Key party))) :
    stores.answersTo names party (⟨caller, call⟩ :: rest) =
      (stores.call names caller call).2.answersTo names party rest := by
  simp [answersTo, answers, differs]

/-- A party that sees the same is answered the same, whatever else is called for. -/
theorem Settled.answersTo_eq (settled : stores.Settled names label)
    (aloneSettled : alone.Settled names aloneLabel)
    (sees : SwapArea.SeesAlike (names party) stores.volume alone.volume (stores.area? party)
      (alone.area? party))
    (named : ∀ volume : Volume, volume.checkPath (Disk.imageName (names party)) true = .ok ())
    (apart : ∀ other, other ≠ party →
      Disk.imageName (names other) ≠ Disk.imageName (names party))
    (calls : List ((party : Party) × StoreCall (Key party))) :
    stores.answersTo names party calls =
      alone.answersTo names party (calls.filter fun call => call.1 = party) := by
  induction calls generalizing stores alone label aloneLabel with
  | nil => rfl
  | cons event rest ih =>
    obtain ⟨caller, call⟩ := event
    obtain ⟨relabel, served⟩ := settled.call caller call
    by_cases same : caller = party
    · subst caller
      obtain ⟨aloneRelabel, aloneServed⟩ := aloneSettled.call party call
      obtain ⟨answer_eq, later⟩ := sees.callNamed settled.labelled.present
        aloneSettled.labelled.present (named stores.volume) call
      have own_eq : (alone.call names party call).1 = (stores.call names party call).1 := answer_eq
      have after_sees : SwapArea.SeesAlike (names party)
          (stores.call names party call).2.volume (alone.call names party call).2.volume
          ((stores.call names party call).2.area? party)
          ((alone.call names party call).2.area? party) := by
        simp only [SwapStores.call, Function.update_self]
        exact later
      rw [List.filter_cons_of_pos (by simp), answersTo_cons_self, answersTo_cons_self, own_eq,
        ih served aloneServed after_sees]
    · have later := settled.sees_of_ne (apart caller same) same sees call
      rw [List.filter_cons_of_neg (by simpa using same), answersTo_cons_of_ne stores same,
        ih served aloneSettled later]

end Steps

end SwapStores

/-- Every name leads to a file, and no file has two names. -/
def Volume.Tidy (volume : Volume) : Prop :=
  ∀ name file, volume.find? name = some file →
    file < volume.files.size ∧ ∀ other, volume.find? other = some file → other = name

theorem Volume.tidy_empty : Volume.Tidy {} := by
  intro name file found
  cases found

theorem Volume.Tidy.exists_labelled {volume : Volume} (tidy : volume.Tidy) :
    ∃ label, volume.Labelled label := by
  classical
  let label : FileNumber → String := fun file =>
    if named : ∃ name, volume.find? name = some file then named.choose else ""
  refine ⟨label, ?_⟩
  constructor
  case present => exact fun name file found => (tidy name file found).1
  case label_eq =>
    intro name file found
    have named : ∃ name, volume.find? name = some file := ⟨name, found⟩
    have chosen : label file = named.choose := dif_pos named
    rw [chosen]
    exact (tidy name file found).2 _ named.choose_spec

/-- A store of this name can be opened. -/
def Openable (name : String) : Prop :=
  Volume.checkPath {} (Disk.imageName name) true = .ok ()

namespace SwapStores

variable {Party : Type} [DecidableEq Party] {Key : Party → Type} {pageSize : Party → Nat}
  [∀ party, DecidableEq (Key party)]

variable {names : Party → String} {party other : Party}

theorem undisturbed_of_imageName_ne (openable : Openable (names party))
    (apart : ∀ other, other ≠ party →
      Disk.imageName (names other) ≠ Disk.imageName (names party))
    {volume : Volume} (tidy : volume.Tidy)
    (calls : List ((party : Party) × StoreCall (Key party))) :
    ({ volume := volume } : SwapStores Key pageSize).Undisturbed names party calls := by
  obtain ⟨label, labelled⟩ := tidy.exists_labelled
  have settled : ({ volume := volume } : SwapStores Key pageSize).Settled names label :=
    ⟨labelled, nofun, nofun⟩
  exact settled.answersTo_eq settled (.unopened rfl)
    (fun volume => Volume.checkPath_of_eq_ok openable volume true) apart calls

/-- Two stores are opened and closed, one inside the other. -/
def nested (party other : Party) : List ((party : Party) × StoreCall (Key party)) :=
  [⟨party, .opening⟩, ⟨other, .opening⟩, ⟨other, .call (.request .close none)⟩,
    ⟨party, .call (.request .close none)⟩]

/-- A store whose file another one has removed cannot be closed without an
error. -/
theorem not_undisturbed_nested (openable : Openable (names party)) (differs : other ≠ party)
    (same : Disk.imageName (names other) = Disk.imageName (names party)) :
    ¬ ({} : SwapStores Key pageSize).Undisturbed names party (nested party other) := by
  have named : ∀ volume : Volume, volume.checkPath (Disk.imageName (names party)) true = .ok () :=
    fun volume => Volume.checkPath_of_eq_ok openable volume true
  have otherNamed : ∀ volume : Volume,
      volume.checkPath (Disk.imageName (names other)) true = .ok () := by
    rw [same]
    exact named
  obtain ⟨area, opened, opening, name_eq, isOpen, present⟩ :=
    @SwapArea.exists_callNamed_opening (Key party) (pageSize party) _ _ _ (named {}) none
  obtain ⟨otherArea, reopened, reopening, otherName_eq, otherIsOpen, -⟩ :=
    @SwapArea.exists_callNamed_opening (Key other) (pageSize other) _ _ _ (otherNamed opened) none
  rw [← name_eq] at named present same
  rw [← otherName_eq] at otherNamed
  have gone := SwapArea.hasFile_close_of_isOpen otherIsOpen otherNamed (names other) reopened
  have closing := SwapArea.answer_close_of_isOpen isOpen named (names party)
  rw [otherName_eq, same] at gone
  have own_calls : (nested party other : List ((party : Party) × StoreCall (Key party))).filter
      (fun call => call.1 = party) =
        [⟨party, .opening⟩, ⟨party, .call (.request .close none)⟩] := by
    simp [nested, differs]
  intro undisturbed
  unfold Undisturbed at undisturbed
  rw [own_calls, nested, answersTo_cons_self, answersTo_cons_of_ne _ differs,
    answersTo_cons_of_ne _ differs, answersTo_cons_self, answersTo_cons_self,
    answersTo_cons_self] at undisturbed
  simp only [call, opening, reopening, Function.update_self, Function.update_of_ne differs,
    Function.update_of_ne differs.symm, closing, gone, present] at undisturbed
  simp at undisturbed

/-- A party is answered as if there were no other store, in every run of calls,
just if no other store has a file of the same name: if their names differ by more
than hyphens for underscores. -/
theorem undisturbed_iff_imageName_ne (openable : Openable (names party)) :
    (∀ volume : Volume, volume.Tidy → ∀ calls,
      ({ volume := volume } : SwapStores Key pageSize).Undisturbed names party calls) ↔
      ∀ other, other ≠ party → Disk.imageName (names other) ≠ Disk.imageName (names party) := by
  constructor
  · intro undisturbed other differs same
    exact not_undisturbed_nested openable differs same (undisturbed {} Volume.tidy_empty _)
  · intro apart volume tidy calls
    exact undisturbed_of_imageName_ne openable apart tidy calls

/-- Two parties whose stores are called `"a"` and `"b"` do not disturb each
other. -/
theorem undisturbed_iff_imageName_ne_letters :
    Openable "a" ∧ ∀ calls, ({} : SwapStores (fun _ : Bool => Nat) fun _ => 8).Undisturbed
      (fun party => if party then "a" else "b") true calls := by
  have image_a : Disk.imageName "a" = "DISK_IMAGE_a" := by cbv
  have image_b : Disk.imageName "b" = "DISK_IMAGE_b" := by cbv
  have openable : Openable "a" := by
    unfold Openable
    rw [image_a]
    rfl
  have exactly := @undisturbed_iff_imageName_ne Bool _ (fun _ => Nat) (fun _ => 8) _
    (fun party => if party then "a" else "b") true openable
  refine ⟨openable, exactly.mpr ?_ {} Volume.tidy_empty⟩
  intro other differs
  obtain rfl := Bool.eq_false_of_not_eq_true differs
  change Disk.imageName "b" ≠ Disk.imageName "a"
  rw [image_a, image_b]
  decide

/-- Stores called `"a-b"` and `"a_b"` disturb each other, though their names are
different. -/
theorem not_undisturbed_hyphen :
    "a-b" ≠ "a_b" ∧ ¬ ({} : SwapStores (fun _ : Bool => Nat) fun _ => 8).Undisturbed
      (fun party => if party then "a-b" else "a_b") true (nested true false) := by
  have image_hyphen : Disk.imageName "a-b" = "DISK_IMAGE_a_b" := by cbv
  have image_underscore : Disk.imageName "a_b" = "DISK_IMAGE_a_b" := by cbv
  refine ⟨by decide, not_undisturbed_nested ?_ Bool.false_ne_true ?_⟩
  · change Openable "a-b"
    unfold Openable
    rw [image_hyphen]
    rfl
  · exact image_underscore.trans image_hyphen.symm

end SwapStores

end DemandPaging
