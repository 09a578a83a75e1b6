import Mathlib.Data.List.Basic

/-!
# Programs that may fail

What a program that did not fail has done, one step after another.
-/
namespace AlianStructure.Library.Failing

variable {Error Item State Result : Type}

/-- A program that ends well has come through its first step. -/
theorem bind_ok {α β : Type} {program : Except Error α} {next : α → Except Error β} {value : β}
    (ends : (program >>= next) = .ok value) : ∃ middle, program = .ok middle ∧ next middle = .ok value := by
  cases program with
  | error => cases ends
  | ok middle => exact ⟨middle, rfl, ends⟩

/-- A loop that did not fail, each of whose steps is known when it does not. -/
theorem foldlM_ok {f : State → Item → Except Error State} {g : State → Item → State}
    (step : ∀ state item after, f state item = .ok after → after = g state item) :
    ∀ {items : List Item} {state after : State}, items.foldlM f state = .ok after → after = items.foldl g state
  | [], _, _, ends => (Except.ok.inj ends).symm
  | item :: items, state, after, ends => by
    rw [List.foldlM_cons] at ends
    obtain ⟨middle, first, rest⟩ := bind_ok ends
    rw [List.foldl_cons, ← step state item middle first]
    exact foldlM_ok step rest

theorem mapM_ok {f : Item → Except Error Result} {g : Item → Result}
    (step : ∀ item result, f item = .ok result → result = g item) :
    ∀ {items : List Item} {results : List Result}, items.mapM f = .ok results → results = items.map g
  | [], _, ends => (Except.ok.inj ends).symm
  | item :: items, results, ends => by
    rw [List.mapM_cons] at ends
    obtain ⟨result, first, ends⟩ := bind_ok ends
    obtain ⟨others, rest, ends⟩ := bind_ok ends
    rw [← Except.ok.inj ends, List.map_cons, ← step item result first, ← mapM_ok step rest]

theorem mapM_some {f : Item → Option Result} {g : Item → Result} :
    ∀ items : List Item, (∀ item ∈ items, f item = some (g item)) → items.mapM f = some (items.map g)
  | [], _ => rfl
  | item :: items, all => by
    rw [List.mapM_cons, all item List.mem_cons_self,
      mapM_some items fun other member => all other (List.mem_cons_of_mem _ member)]
    rfl

theorem mapM_none {f : Item → Option Result} {item : Item} (refused : f item = none) :
    ∀ items : List Item, item ∈ items → items.mapM f = none
  | other :: items, member => by
    rw [List.mapM_cons]
    rcases List.mem_cons.mp member with rfl | later
    · rw [refused]
      rfl
    · rw [mapM_none refused items later]
      cases f other <;> rfl

end AlianStructure.Library.Failing
