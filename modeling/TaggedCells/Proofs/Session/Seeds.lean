import TaggedCells.Proofs.CellArray.AllOrNothing
import TaggedCells.Proofs.CellArray.Shuffling
import TaggedCells.Proofs.Session.Run
import Mathlib.Data.List.Forall2

/-!
# Shuffles since a seed

A session draws from its generator when a shuffle succeeds and at no other time: every other
operation is called past the generator (`Operation.exists_direct_eq_lift`), and a shuffle that fails
has drawn nothing. How much a shuffle draws and what order it puts the elements in depends on how
many there are, not on what they are.

So the lengths of the arrays that were shuffled since the generator was started from a seed say
which orders they were put in (`Session.Since.drawn`), whatever else the session was used for.
-/

set_option autoImplicit false

namespace TaggedCells

open Equiv (Perm)
open Randomness (Generator)
open Trace (Tracer)

/-! ## Orders from a generator -/

/-- An order of so many positions. -/
structure CountedOrder where
  count : Nat
  order : Perm (Fin count)

/-- The generator after it has given an order for each of the counts. -/
def generatorAfter (generator : Generator) (counts : List Nat) : Generator :=
  counts.foldl (sourceAfter (chooseFrom Generator)) generator

/-- The orders that a generator gives for each of the counts, one after the other. -/
def generatorOrders : Generator → List Nat → List CountedOrder
  | _, [] => []
  | generator, count :: further =>
      ⟨count, orderFrom (chooseFrom Generator) generator count⟩
        :: generatorOrders (sourceAfter (chooseFrom Generator) generator count) further

theorem generatorAfter_append (generator : Generator) (counts further : List Nat) :
    generatorAfter generator (counts ++ further)
      = generatorAfter (generatorAfter generator counts) further :=
  List.foldl_append

theorem generatorOrders_append (generator : Generator) (counts further : List Nat) :
    generatorOrders generator (counts ++ further)
      = generatorOrders generator counts
        ++ generatorOrders (generatorAfter generator counts) further := by
  induction counts generalizing generator with
  | nil => rfl
  | cons count rest ih => exact congrArg (List.cons _) (ih _)

/-! ## Shuffles -/

/-- A shuffle that succeeded: the cell before it and after it. -/
structure Shuffle where
  before : Cell
  after : Cell

namespace Shuffle

/-- How many elements were shuffled. -/
def length (shuffle : Shuffle) : Nat :=
  match shuffle.before with
  | .array _ elements => elements.length
  | _ => 0

/-- The shuffle put the elements of an array in the order and changed nothing else. -/
def Applies (shuffle : Shuffle) (counted : CountedOrder) : Prop :=
  ∃ (array : CellArray) (mixed : List Cell),
    shuffle = ⟨array.toCell, (array.withElements mixed).toCell⟩
      ∧ array.length = counted.count ∧ Rearranged counted.order 0 array.elements mixed

end Shuffle

/-- The shuffles in a call: one if it was to shuffle and succeeded, and none otherwise. -/
def Operation.shuffles {m : Type → Type} :
    Operation m → Cell → Except Failure Reply × Cell → List Shuffle
  | .shuffle, before, (.ok _, after) => [⟨before, after⟩]
  | _, _, _ => []

/-- The shuffles put their arrays in the orders that the generator gives for the lengths of these,
and leave it as it is after that. -/
structure Drawn (generator : Generator) (shuffles : List Shuffle) (later : Generator) : Prop where
  left : later = generatorAfter generator (shuffles.map Shuffle.length)
  applied : List.Forall₂ Shuffle.Applies shuffles
    (generatorOrders generator (shuffles.map Shuffle.length))

namespace Drawn

variable {generator between later : Generator}

theorem nothing (generator : Generator) : Drawn generator [] generator := ⟨rfl, .nil⟩

theorem append {shuffles further : List Shuffle} (first : Drawn generator shuffles between)
    (second : Drawn between further later) : Drawn generator (shuffles ++ further) later := by
  obtain ⟨rfl, applied⟩ := first
  obtain ⟨rfl, others⟩ := second
  refine ⟨?_, ?_⟩
  · rw [List.map_append, generatorAfter_append]
  · rw [List.map_append, generatorOrders_append]
    exact List.rel_append applied others

end Drawn

/-! ## Calls -/

namespace Operation

variable {m : Type → Type}

/-- The shuffle that a session stands for, from where its generator stands. -/
def shuffleFrom (cell : Cell) (generator : Generator) :
    (Except Failure Reply × Cell) × Generator :=
  let shuffling : StateM Generator (Except Failure Unit × Cell) :=
    (Cell.shuffle (chooseFrom Generator)).apply cell
  (shuffling.run generator).map (worked done) id

/-- A homogeneous array is put in the order that comes from the generator. -/
theorem exists_shuffleFrom_eq {array : CellArray} (uniform : array.Homogeneous)
    (generator : Generator) :
    ∃ mixed : List Cell,
      Rearranged (orderFrom (chooseFrom Generator) generator array.length) 0 array.elements mixed
        ∧ shuffleFrom array.toCell generator
          = ((.ok .done, (array.withElements mixed).toCell),
            sourceAfter (chooseFrom Generator) generator array.length) := by
  obtain ⟨mixed, rearranged, -, run⟩ :=
    shuffle_reorders (chooseFrom Generator) generator uniform rfl
  refine ⟨mixed, rearranged, ?_⟩
  rw [shuffleFrom, run]
  rfl

/-- A shuffle draws from the generator only if it succeeds. -/
theorem drawn_shuffleFrom (cell : Cell) (generator : Generator) :
    Drawn generator ((shuffle : Operation m).shuffles cell (shuffleFrom cell generator).1)
      (shuffleFrom cell generator).2 := by
  have decided := cell.shuffles_or_refuses (m := StateM Generator) (chooseFrom Generator)
  rcases decided with ⟨array, rfl, uniform⟩ | ⟨failure, -, refused⟩
  · obtain ⟨mixed, rearranged, shuffled⟩ := exists_shuffleFrom_eq uniform generator
    rw [shuffled]
    exact ⟨rfl, .cons ⟨array, mixed, rfl, rfl, rearranged⟩ .nil⟩
  · have failed : shuffleFrom cell generator = ((.error failure, cell), generator) := by
      rw [shuffleFrom, refused]
      rfl
    rw [failed]
    exact .nothing generator

variable [Monad m] [LawfulMonad m]

/-- Only a shuffle is handed the generator. -/
theorem exists_direct_eq_lift (algorithm : SortAlgorithm) {operation : Operation m}
    (apart : operation ≠ .shuffle) (cell : Cell) :
    ∃ run : m (Except Failure Reply × Cell), operation.direct algorithm cell = liftM run := by
  cases operation with
  | shuffle => exact absurd rfl apart
  | transform f => exact ⟨_, (liftM_map _ _).symm⟩
  | filter keep => exact ⟨_, (liftM_map _ _).symm⟩
  | reduce combine => exact ⟨_, (liftM_map _ _).symm⟩
  | split wanted => exact ⟨_, (liftM_map _ _).symm⟩
  | visit visitor => exact ⟨_, (liftM_map _ _).symm⟩
  | _ => exact ⟨pure _, (liftM_pure _).symm⟩

theorem run_direct_shuffle (algorithm : SortAlgorithm) (cell : Cell) (generator : Generator) :
    ((shuffle : Operation m).direct algorithm cell).run generator
      = pure (shuffleFrom cell generator) := by
  rw [direct, StateT.run_map, StateT.run_modifyGet, map_pure]
  rfl

/-- **A call draws from the generator what its shuffle takes, and nothing if there is none.** -/
theorem always_drawn (algorithm : SortAlgorithm) (operation : Operation m) (cell : Cell)
    (generator : Generator) :
    Always (fun result => Drawn generator (operation.shuffles cell result.1) result.2)
      ((operation.direct algorithm cell).run generator) := by
  -- all but a shuffle are called past the generator, so there is nothing else to look into
  by_cases apart : operation = .shuffle
  · subst apart
    rw [run_direct_shuffle]
    exact .pure (drawn_shuffleFrom cell generator)
  · obtain ⟨run, called⟩ := exists_direct_eq_lift algorithm apart cell
    have silent : ∀ result, operation.shuffles cell result = [] := by
      intro result
      cases operation with
      | shuffle => exact absurd rfl apart
      | _ => rfl
    rw [called]
    show Always _ ((monadLift run : StateT Generator m _).run generator)
    rw [StateT.run_monadLift, monadLift_self]
    refine (Always.trivial run).bind fun result _ => .pure ?_
    rw [silent]
    exact .nothing generator

end Operation

/-! ## Sessions -/

namespace Session

/-- Calls an operation that brings functions along, from the state that these start in. -/
def call {σ : Type} (session : Session) (operation : Operation (StateM σ)) (cell : Cell)
    (world : σ) : (Except Failure Reply × Cell) × Session :=
  (((perform operation cell).run session).run world).1

/-- The session came about since its generator was started from the seed, and these are the
shuffles since then. Operations may bring functions along that run with a state of any type, and
the tracer may be replaced at any time. -/
inductive Since : UInt64 → List Shuffle → Session → Prop where
  | started (config : SessionConfig) : Since config.seed [] (.ofConfig config)
  | reseeded {earlier : UInt64} {shuffles : List Shuffle} {session : Session}
      (since : Since earlier shuffles session) (seed : UInt64) : Since seed [] (session.reseed seed)
  | called {seed : UInt64} {shuffles : List Shuffle} {session : Session}
      (since : Since seed shuffles session) {σ : Type} (operation : Operation (StateM σ))
      (cell : Cell) (world : σ) :
      Since seed (shuffles ++ operation.shuffles cell (session.call operation cell world).1)
        (session.call operation cell world).2
  | traced {seed : UInt64} {shuffles : List Shuffle} {session : Session}
      (since : Since seed shuffles session) (tracer : Tracer) :
      Since seed shuffles { session with tracer := tracer }

/-- A call in a session draws what the call of the operation draws. -/
theorem always_drawn {m : Type → Type} [Monad m] [LawfulMonad m] (operation : Operation m)
    (cell : Cell) (session : Session) :
    Always (fun performed =>
        Drawn session.generator (operation.shuffles cell performed.1) performed.2.generator)
      ((perform operation cell).run session) := by
  rw [run_perform]
  exact (operation.always_drawn _ cell session.generator).map fun _ drawn => drawn

/-- **The shuffles since a seed are in the orders that the seed gives.** -/
theorem Since.drawn {seed : UInt64} {shuffles : List Shuffle} {session : Session}
    (since : Since seed shuffles session) :
    Drawn (.ofSeed seed) shuffles session.generator := by
  induction since with
  | started config => exact .nothing _
  | reseeded since seed ih => exact .nothing _
  | @called seed shuffles session since σ operation cell world ih =>
      exact ih.append ((always_drawn operation cell session).from_state world)
  | traced since tracer ih => exact ih

/-- Any homogeneous array can be shuffled next. -/
theorem Since.exists_shuffled {seed : UInt64} {shuffles : List Shuffle} {session : Session}
    (since : Since seed shuffles session) {array : CellArray} (uniform : array.Homogeneous) :
    ∃ (shuffle : Shuffle) (later : Session), shuffle.before = array.toCell
      ∧ Since seed (shuffles ++ [shuffle]) later := by
  let operation : Operation (StateM Unit) := .shuffle
  obtain ⟨mixed, -, shuffled⟩ := Operation.exists_shuffleFrom_eq uniform session.generator
  have answered : (session.call operation array.toCell ()).1
      = (.ok .done, (array.withElements mixed).toCell) := by
    rw [call, run_perform, Operation.run_direct_shuffle, shuffled, map_pure]
    rfl
  have called := since.called operation array.toCell ()
  rw [answered] at called
  exact ⟨_, _, rfl, called⟩

end Session

/-! ## Main statement -/

/-- Shuffling with a generator that the seed starts puts every array of so many elements in the
order. -/
def CountedOrder.Seeded (seed : UInt64) (counted : CountedOrder) : Prop :=
  ∀ array : CellArray, array.Homogeneous → array.length = counted.count →
    ∃ mixed : List Cell, Rearranged counted.order 0 array.elements mixed
      ∧ (Cell.shuffleSeeded seed).applyPure array.toCell
        = (.ok (), (array.withElements mixed).toCell)

theorem seeded_orderFrom (seed : UInt64) (count : Nat) :
    CountedOrder.Seeded seed
      ⟨count, orderFrom (chooseFrom Generator) (Generator.ofSeed seed) count⟩ := by
  intro array uniform same
  obtain ⟨mixed, rearranged, -, run⟩ :=
    shuffle_reorders (chooseFrom Generator) (Generator.ofSeed seed) uniform same
  refine ⟨mixed, rearranged, ?_⟩
  rw [Edit.applyPure, Cell.apply_shuffleSeeded]
  exact congrArg Prod.fst run

/-- **The seed and the lengths fix the orders of the shuffles since**: two sessions that started
from one seed and have since shuffled arrays of the same lengths have put them in the same orders,
the first of them as shuffling from the seed does, whatever the arrays hold and whatever else the
sessions did. -/
theorem seeds_fix_the_orders {seed : UInt64} {one other : List Shuffle} {here there : Session}
    (first : Session.Since seed one here) (second : Session.Since seed other there)
    (alike : one.map Shuffle.length = other.map Shuffle.length) :
    let orders := generatorOrders (.ofSeed seed) (one.map Shuffle.length)
    List.Forall₂ Shuffle.Applies one orders ∧ List.Forall₂ Shuffle.Applies other orders
      ∧ ∀ counted ∈ orders.head?, counted.Seeded seed := by
  refine ⟨first.drawn.applied, ?_, ?_⟩
  · rw [alike]
    exact second.drawn.applied
  · intro counted present
    cases one with
    | nil => cases present
    | cons shuffle rest =>
        obtain rfl := Option.some.inj present
        exact seeded_orderFrom seed shuffle.length

/-- A session with the seed, and one that is reseeded and then fails to shuffle an erased cell,
shuffle three bytes and three strings alike. -/
theorem seeds_fix_the_orders_reseeded :
    let bytes : CellArray := ⟨.integer (.sized .unsigned .eight),
      [.ofWord (.sized .unsigned .eight) 1, .ofWord (.sized .unsigned .eight) 2,
        .ofWord (.sized .unsigned .eight) 3]⟩
    let strings : CellArray := ⟨.string, [.string "a", .string "b", .string "c"]⟩
    ∃ (one other : Shuffle) (here there : Session),
      one.before = bytes.toCell ∧ other.before = strings.toCell
        ∧ Session.Since 7 [one] here ∧ Session.Since 7 [other] there
        ∧ ∃ counted : CountedOrder,
          counted.Seeded 7 ∧ one.Applies counted ∧ other.Applies counted := by
  intro bytes strings
  have plain : bytes.requireHomogeneous "shuffle" = .ok () := rfl
  have worded : strings.requireHomogeneous "shuffle" = .ok () := rfl
  have started : Session.Since 7 [] (.ofConfig { seed := 7 }) := .started { seed := 7 }
  have reseeded : Session.Since 7 [] ((Session.ofConfig {}).reseed 7) := .reseeded (.started {}) 7
  have refused := reseeded.called (.shuffle : Operation (StateM Unit)) .invalid ()
  obtain ⟨one, here, bare, first⟩ :=
    started.exists_shuffled (CellArray.requireHomogeneous_eq_ok_iff.mp plain)
  obtain ⟨other, there, held, second⟩ :=
    refused.exists_shuffled (CellArray.requireHomogeneous_eq_ok_iff.mp worded)
  have three : one.length = 3 := by
    rw [Shuffle.length, bare]
    rfl
  have alike : other.length = 3 := by
    rw [Shuffle.length, held]
    rfl
  have same : [one].map Shuffle.length = [other].map Shuffle.length :=
    congrArg ([·]) (three.trans alike.symm)
  obtain ⟨these, those, seeded⟩ := seeds_fix_the_orders first second same
  exact ⟨one, other, here, there, bare, held, first, second, _, seeded _ rfl,
    (List.forall₂_cons.mp these).1, (List.forall₂_cons.mp those).1⟩

end TaggedCells
