import TaggedCells.Proofs.Cell.Integers

/-!
# Which numbers a kind holds

Whether a number has a cell of a kind is asked in three ways: whether the kind fits it, whether the
kind accepts it, and whether the cell is made. The answers agree (`Kind.Takes`), and they are those
of a table that lists the bounds of every kind (`Kind.listed?`). A cell that is made is of the kind
and reads back as the number, and every cell that reads as a number is the one made of that number
under its kind: the words of a kind and the numbers between its bounds correspond one to one.
-/

set_option autoImplicit false

namespace TaggedCells

/-- The bounds of each kind that has any. -/
def Kind.listed? : Kind → Option Bounds
  | .integer (.sized .signed .eight) => some ⟨-128, 127⟩
  | .integer (.sized .signed .sixteen) => some ⟨-32768, 32767⟩
  | .integer (.native true) | .integer (.sized .signed .thirtyTwo) =>
      some ⟨-2147483648, 2147483647⟩
  | .integer (.sized .signed .sixtyFour) => some ⟨-9223372036854775808, 9223372036854775807⟩
  | .integer (.sized .unsigned .eight) | .integer (.sized .octal .eight)
  | .integer (.sized .bitwise .eight) | .integer (.sized .hex .eight) => some ⟨0, 255⟩
  | .integer (.sized .unsigned .sixteen) | .integer (.sized .octal .sixteen)
  | .integer (.sized .bitwise .sixteen) | .integer (.sized .hex .sixteen) => some ⟨0, 65535⟩
  | .integer (.native false) | .integer (.sized .unsigned .thirtyTwo)
  | .integer (.sized .octal .thirtyTwo) | .integer (.sized .bitwise .thirtyTwo)
  | .integer (.sized .hex .thirtyTwo) => some ⟨0, 4294967295⟩
  | .integer (.sized .unsigned .sixtyFour) | .integer (.sized .octal .sixtyFour)
  | .integer (.sized .bitwise .sixtyFour) | .integer (.sized .hex .sixtyFour) =>
      some ⟨0, 18446744073709551615⟩
  | .float | .double | .string | .char | .bool | .qbit | .array | .map | .null | .invalid
  | .unknown => none

theorem Kind.bounds?_eq_listed? (kind : Kind) : kind.bounds? = kind.listed? := by
  cases kind with
  | integer kind =>
      cases kind with
      | native signed => cases signed <;> rfl
      | sized view width => cases view <;> cases width <;> rfl
  | _ => rfl

/-- What becomes of a number under a kind. -/
structure Kind.Takes (kind : Kind) (number : Int) : Prop where
  /-- The kind fits what the table lists. -/
  listed : kind.fits number = true
    ↔ ∃ bounds, kind.listed? = some bounds ∧ bounds.least ≤ number ∧ number ≤ bounds.greatest
  made : (∃ cell, Cell.ofInt kind number = .ok cell) ↔ kind.fits number = true
  accepted : (∃ held, kind.accept number = .ok held) ↔ kind.fits number = true
  /-- The word of a cell that is made loses nothing of the number. -/
  back : ∀ cell, Cell.ofInt kind number = .ok cell →
    cell.kind = kind ∧ cell.integer? = some number
  undefined : kind.listed? = none →
    Cell.ofInt kind number = .error (.ofCause (.invalidOperation "limits check" kind))
  beyond : ∀ bounds, kind.listed? = some bounds →
    number < bounds.least ∨ bounds.greatest < number →
      Cell.ofInt kind number = .error (.ofCause (.overflow kind))

section Kinds

variable {kind : Kind} {number : Int}

theorem Kind.fits_iff_listed :
    kind.fits number = true
      ↔ ∃ bounds, kind.listed? = some bounds
        ∧ bounds.least ≤ number ∧ number ≤ bounds.greatest := by
  rw [← bounds?_eq_listed?, fits, Option.any_eq_true]
  simp only [Bounds.contains_iff]

theorem Kind.takes_of_refused {failure : Failure} (unfit : kind.fits number = false)
    (unmade : Cell.ofInt kind number = .error failure)
    (unaccepted : kind.accept number = .error failure)
    (undefined : kind.listed? = none →
      failure = .ofCause (.invalidOperation "limits check" kind))
    (beyond : ∀ bounds, kind.listed? = some bounds → failure = .ofCause (.overflow kind)) :
    kind.Takes number := by
  have refused : ¬ kind.fits number = true := Bool.eq_false_iff.mp unfit
  refine ⟨Kind.fits_iff_listed, ?_, ?_, ?_, ?_, ?_⟩
  · rw [unmade]
    exact ⟨nofun, fun fit => absurd fit refused⟩
  · rw [unaccepted]
    exact ⟨nofun, fun fit => absurd fit refused⟩
  · rw [unmade]
    nofun
  · intro other
    rw [unmade, undefined other]
  · intro bounds known _
    rw [unmade, beyond bounds known]

theorem Kind.takes_of_undefined (undefined : kind.isInteger = false) : kind.Takes number := by
  cases kind with
  | integer => cases undefined
  | _ => exact takes_of_refused rfl rfl rfl (fun _ => rfl) nofun

end Kinds

section Integers

variable {kind : IntKind} {number : Int}

theorem IntKind.takes_of_held (held : kind.bounds.contains number = true) :
    (Kind.integer kind).Takes number := by
  have made := Cell.ofInt_of_held held
  have accepted : (Kind.integer kind).accept number = .ok number := if_pos held
  refine ⟨Kind.fits_iff_listed, ?_, ?_, ?_, ?_, ?_⟩
  · exact ⟨fun _ => held, fun _ => ⟨_, made⟩⟩
  · exact ⟨fun _ => held, fun _ => ⟨_, accepted⟩⟩
  · intro cell same
    obtain rfl := Except.ok.inj (made.symm.trans same)
    exact Cell.holds_ofWord held
  · rw [← Kind.bounds?_eq_listed?]
    nofun
  · rw [← Kind.bounds?_eq_listed?]
    rintro bounds ⟨⟩ outside
    obtain ⟨least, greatest⟩ := Bounds.contains_iff.mp held
    omega

theorem IntKind.takes_of_unheld (unheld : kind.bounds.contains number = false) :
    (Kind.integer kind).Takes number := by
  have unaccepted : (Kind.integer kind).accept number
      = .error (.ofCause (.overflow (.integer kind))) := if_neg (Bool.eq_false_iff.mp unheld)
  refine Kind.takes_of_refused unheld (Cell.ofInt_of_unheld unheld) unaccepted ?_ fun _ _ => rfl
  rw [← Kind.bounds?_eq_listed?]
  nofun

end Integers

theorem Kind.takes (kind : Kind) (number : Int) : kind.Takes number := by
  cases integer : kind.isInteger with
  | false => exact takes_of_undefined integer
  | true =>
      cases kind with
      | integer kind =>
          cases held : kind.bounds.contains number with
          | true => exact kind.takes_of_held held
          | false => exact kind.takes_of_unheld held
      | _ => cases integer

/-- A cell that reads as a number is made of that number. -/
theorem Cell.ofInt_of_integer? {cell : Cell} {number : Int}
    (reads : cell.integer? = some number) : Cell.ofInt cell.kind number = .ok cell := by
  cases cell with
  | integer kind word =>
      obtain rfl := Option.some.inj reads
      have held := kind.contains_read word
      rw [Cell.kind, Cell.ofInt_of_held held, Cell.ofWord]
      -- the cell made of the number reads as that number too, and no two words of a kind read alike
      exact congrArg (fun word => Except.ok (Cell.integer kind word))
        (kind.read_injective (kind.read_ofInt held))
  | _ => cases reads

/-- **Every number is taken by a kind or refused as the bounds of the kind say, and every integer
cell is the one made of its number.** -/
theorem numbers_and_cells_correspond :
    (∀ (kind : Kind) (number : Int), kind.Takes number)
      ∧ ∀ (cell : Cell) (number : Int), cell.integer? = some number →
          Cell.ofInt cell.kind number = .ok cell :=
  ⟨Kind.takes, fun _ _ => Cell.ofInt_of_integer?⟩

/-- The greatest number of all integer kinds, in a word of ones. -/
theorem numbers_and_cells_correspond_greatest :
    (Cell.integer (.sized .hex .sixtyFour) (.allOnes 64)).integer? = some 18446744073709551615
      ∧ Cell.ofInt (.integer (.sized .hex .sixtyFour)) 18446744073709551615
        = .ok (.integer (.sized .hex .sixtyFour) (.allOnes 64)) :=
  have reads : (Cell.integer (.sized .hex .sixtyFour) (.allOnes 64)).integer?
      = some 18446744073709551615 := by decide
  ⟨reads, numbers_and_cells_correspond.2 _ _ reads⟩

end TaggedCells
