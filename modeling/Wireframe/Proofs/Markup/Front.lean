import Wireframe.Proofs.Markup.RawText

/-! # Markup in front of markup

An element that is written in front of any markup is read first, and then comes what is read of
the markup alone (`Wireframe.Markup.read_write_append`). The markup behind it need not be that of
trees: whether it is read, and as what, does not depend on the element.
-/

namespace Wireframe.Markup

/-! ## What stands outside already -/

namespace Partial

/-- The same with some trees before all that stands outside, the last of them first. -/
def after (p : Partial) (earlier : List Markup) : Partial :=
  { p with outside := p.outside ++ earlier }

variable (earlier : List Markup)

theorem add_after (p : Partial) (m : Markup) :
    (p.after earlier).add m = (p.add m).after earlier := by
  obtain ⟨opened, outside⟩ := p
  cases opened <;> rfl

/-- A token does the same whatever stands outside already. -/
theorem step_after (p : Partial) (t : Token) :
    (p.after earlier).step t = (p.step t).map fun q => q.after earlier := by
  cases t with
  | text s =>
      simp only [step, add_after]
      split <;> rfl
  | startTag tag attributes closed =>
      simp only [step, add_after]
      split <;> rfl
  | endTag tag =>
      obtain ⟨opened, outside⟩ := p
      cases opened with
      | nil =>
          simp only [step, after]
          split <;> rfl
      | cons o opened =>
          simp only [step, after]
          split_ifs
          · exact congrArg Except.ok (add_after earlier ⟨opened, outside⟩ _)
          · rfl
          · rfl

theorem steps_after (found : List Token) : ∀ p : Partial,
    (p.after earlier).steps found = (p.steps found).map fun q => q.after earlier := by
  induction found with
  | nil => intro p; rfl
  | cons t found ih =>
      intro p
      simp only [steps, step_after]
      cases p.step t with
      | error fault => rfl
      | ok q => exact ih q

end Partial

/-! ## An element in front -/

section

variable {tag : String} {attributes : List Attribute} {children : List Markup}
  (valid : WellFormed (.element tag attributes children)) (holds : isVoid tag = false)

include valid holds

/-- The markup of an element gives the tokens of the element, whatever follows it. -/
theorem gives_element : Gives (write (.element tag attributes children)).toList
    (flow "" [.element tag attributes children]) := by
  obtain ⟨named, plain, attributesNamed, -, inside⟩ := valid
  have opening := @gives_startTag [] tag attributes trivial named plain attributesNamed
  have closing := gives_endTag tag inside named
  simpa [write, writeAll, flow, textRun, holds] using opening.append closing

/-- **An element in front.** What is read of an element in front of any markup is what reading makes
of the element, and then what is read of the markup. -/
theorem read_write_append (rest : String) :
    read (write (.element tag attributes children) ++ rest) =
      (read rest).map fun nodes => contents [.element tag attributes children] ++ nodes := by
  have found := gives_element valid holds rest.toList
  have before := Partial.steps_flow "" [.element tag attributes children] ⟨valid, trivial⟩ ⟨[], []⟩
  rw [Partial.addAll_outside, List.append_nil] at before
  have behind := Partial.steps_after (contents [.element tag attributes children]).reverse
    (tokensFrom none 0 rest.toList).1 ⟨[], []⟩
  simp only [Partial.after, List.nil_append] at behind
  unfold read tokens
  rw [String.toList_append, found]
  simp only [Partial.steps_append, before, Except.bind, bind, contents] at behind ⊢
  rw [behind]
  obtain ⟨read, flaw⟩ := tokensFrom none 0 rest.toList
  cases Partial.steps ⟨[], []⟩ read with
  | error fault => rfl
  | ok q =>
      obtain ⟨opened, outside⟩ := q
      cases flaw with
      | some flaw => rfl
      | none =>
          cases opened with
          | cons o opened => rfl
          | nil => simp [Except.map, pure, Except.pure]

end

end Wireframe.Markup
