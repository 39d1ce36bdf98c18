/-!
Outputs laid out along their inputs: each input gives a stretch of the output, in order.
-/
namespace Wikitext

/-- Each input in turn gives a stretch of the output. -/
inductive Expansion {α β : Type} (gives : α → List β → Prop) : List α → List β → Prop where
  | nil : Expansion gives [] []
  | cons {input : α} {part : List β} {inputs : List α} {output : List β}
      (first : gives input part) (rest : Expansion gives inputs output) :
      Expansion gives (input :: inputs) (part ++ output)

namespace Expansion
variable {α β γ : Type} {gives : α → List β → Prop}

theorem single {input : α} {part : List β} (first : gives input part) :
    Expansion gives [input] part := by
  have whole : Expansion gives [input] (part ++ []) := cons first nil
  rwa [List.append_nil] at whole

theorem append {inputs others : List α} {output more : List β}
    (first : Expansion gives inputs output) (second : Expansion gives others more) :
    Expansion gives (inputs ++ others) (output ++ more) := by
  induction first with
  | nil => exact second
  | cons one _ ih =>
    rw [List.append_assoc]
    exact cons one ih

theorem imp {others : α → List β → Prop}
    (weaken : ∀ input part, gives input part → others input part)
    {inputs : List α} {output : List β} (expansion : Expansion gives inputs output) :
    Expansion others inputs output := by
  induction expansion with
  | nil => exact nil
  | cons first _ ih => exact cons (weaken _ _ first) ih

theorem exists_of_mem {inputs : List α} {output : List β} {element : β}
    (expansion : Expansion gives inputs output) (member : element ∈ output) :
    ∃ input ∈ inputs, ∃ part, gives input part ∧ element ∈ part := by
  induction expansion with
  | nil => simp at member
  | cons first _ ih =>
    rcases List.mem_append.mp member with here | later
    · exact ⟨_, List.mem_cons_self, _, first, here⟩
    · obtain ⟨input, found, part, given, inside⟩ := ih later
      exact ⟨input, List.mem_cons_of_mem _ found, part, given, inside⟩

theorem exists_of_append {inputs others : List α} {output : List β}
    (expansion : Expansion gives (inputs ++ others) output) :
    ∃ first second, output = first ++ second ∧ Expansion gives inputs first ∧
      Expansion gives others second := by
  induction inputs generalizing output with
  | nil => exact ⟨[], output, rfl, nil, expansion⟩
  | cons input rest ih =>
    cases expansion with
    | cons one tail =>
      obtain ⟨first, second, rfl, here, later⟩ := ih tail
      exact ⟨_, second, (List.append_assoc _ _ _).symm, cons one here, later⟩

theorem stands_in_part {first last part output : List β} {element : β}
    (whole : first ++ element :: last = part ++ output) :
    (∃ back, part = first ++ element :: back ∧ last = back ++ output) ∨
      ∃ front, first = part ++ front ∧ output = front ++ element :: last := by
  rcases List.append_eq_append_iff.mp whole with ⟨more, here, behind⟩ | later
  · cases more with
    | nil => exact .inr ⟨[], by simpa using here.symm, behind.symm⟩
    | cons other more =>
      obtain ⟨rfl, rfl⟩ := List.cons.inj behind
      exact .inl ⟨more, here, rfl⟩
  · exact .inr later

theorem exists_around {inputs : List α} {first last : List β} {element : β}
    (expansion : Expansion gives inputs (first ++ element :: last)) :
    ∃ before input after start front back rest, inputs = before ++ input :: after ∧
      gives input (front ++ element :: back) ∧ Expansion gives before start ∧
      Expansion gives after rest ∧ first = start ++ front ∧ last = back ++ rest := by
  generalize whole : first ++ element :: last = output at expansion
  induction expansion generalizing first with
  | nil => simp at whole
  | @cons input part inputs output one tail ih =>
    rcases stands_in_part whole with ⟨back, rfl, rfl⟩ | ⟨front, rfl, later⟩
    · exact ⟨[], input, inputs, [], first, back, output, rfl, one, nil, tail, rfl, rfl⟩
    · obtain ⟨before, found, after, start, front, back, rest, rfl, inside, left, right, rfl, rfl⟩ :=
        ih later.symm
      exact ⟨input :: before, found, after, part ++ start, front, back, rest, rfl, inside,
        cons one left, right, (List.append_assoc _ _ _).symm, rfl⟩

theorem flatMap_eq {inputs : List α} {output : List β} {render : β → List γ}
    {written : α → List γ} (expansion : Expansion gives inputs output)
    (same : ∀ input part, gives input part → part.flatMap render = written input) :
    output.flatMap render = inputs.flatMap written := by
  induction expansion with
  | nil => rfl
  | cons first _ ih => rw [List.flatMap_append, List.flatMap_cons, same _ _ first, ih]

end Expansion

end Wikitext
