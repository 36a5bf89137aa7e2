import Wireframe.Proofs.Markup.Front
import Wireframe.Proofs.Preview.Mirror

/-! # Banners are inert

The text of an error may hold any characters, also those of markup. A surface shows it as text:
read as trees, what it shows is one banner, with the label of the error and its text and nothing
else, in front of what its fragment alone is read as
(`Wireframe.Preview.Surface.read_view_of_error`).
-/

namespace Wireframe.Preview

/-- What reading makes of a banner: its label, and its text behind a space unless it is blank. -/
def Banner.tree (b : Banner) : Markup :=
  .element "div" [("class", some "textui-error-banner"), ("role", some "alert")]
    (.element "strong" [] [.text b.label] ::
      if Text.allBlank b.text.toList then [] else [.text (" " ++ b.text)])

namespace Surface

/-! ## The element of a banner -/

theorem wellFormed_bannerElement (b : Banner) : (bannerElement b).WellFormed := by
  have div : Markup.IsName "div" := by decide
  have strong : Markup.IsName "strong" := by decide
  have attributes : Markup.IsName "class" ∧ Markup.IsName "role" := by decide
  simpa [bannerElement, Markup.WellFormed, Markup.AllWellFormed, div, strong, Markup.isVoid,
    Markup.voidElements, Markup.rawElements] using attributes

/-- A text and a space in front of it are blank together. -/
theorem run_space (text : String) :
    Markup.run (" " ++ text) = if Text.allBlank text.toList then [] else [.text (" " ++ text)] := by
  have space : Text.isBlank ' ' = true := by decide
  simp [Markup.run, Text.allBlank, space]

theorem contents_bannerElement (b : Banner) (named : Text.allBlank b.label.toList = false) :
    Markup.contents [bannerElement b] = [b.tree] := by
  have label : Markup.run b.label = [.text b.label] := by simp [Markup.run, named]
  simp [Markup.contents, Markup.contentsFrom, bannerElement, Banner.tree, label, run_space]

/-- The banner of an error has a label that is not blank. -/
theorem label_of_banner {m : HostMessage} {b : Banner} (puts : m.banner? = some b) :
    Text.allBlank b.label.toList = false := by
  cases m with
  | error message =>
      cases puts
      exact (by decide : Text.allBlank "Error".toList = false)
  | schemaError message path =>
      cases puts
      have known : Text.allBlank "Schema error at ".toList = false := by decide
      cases place : path.filter (· != "") with
      | none => simp only [schemaLabel, place]; decide
      | some p =>
          simp only [schemaLabel, place, String.toList_append]
          rw [Text.allBlank, List.all_append, ← Text.allBlank, known, Bool.false_and]
  | _ => cases puts

/-! ## What a surface shows -/

/-- An error leaves the fragment and puts its banner above it. -/
theorem screen_of_banner (s : Surface) {m : HostMessage} {b : Banner} (puts : m.banner? = some b) :
    (s.apply m).screen = ⟨s.fragment, s.cssVariables, some b⟩ := by
  rw [screen_apply, ← puts]
  cases m with
  | error | schemaError => rfl
  | _ => cases puts

/-- What a surface shows is read as a banner, and then as its fragment alone is read. -/
theorem read_view (s : Surface) {b : Banner} (banner : s.banner = some b)
    (named : Text.allBlank b.label.toList = false) :
    Markup.read s.view = (Markup.read s.fragment).map fun nodes => b.tree :: nodes := by
  have front : Markup.read ((bannerElement b).write ++ s.fragment) =
      (Markup.read s.fragment).map fun nodes => Markup.contents [bannerElement b] ++ nodes :=
    Markup.read_write_append (wellFormed_bannerElement b) (by decide) s.fragment
  rw [view, banner, front, contents_bannerElement b named]
  rfl

/-- The text of a banner in the markup resolves to that of the banner. -/
theorem bannerText_eq (s : Surface) :
    (s.bannerText.map fun text => String.ofList (Markup.resolveReferences text.toList)) =
      s.banner.map Banner.text := by
  rw [bannerText]
  cases s.banner with
  | none => rfl
  | some b => simp [Markup.escape, Markup.resolveReferences_escape]

/-- A surface displays an error above the nodes of a fragment: what it shows is read as the banner
of the error and then the nodes, and its text of the banner is that of the error, escaped. -/
structure Displays (s : Surface) (b : Banner) (nodes : List Markup) : Prop where
  reads : Markup.read s.view = .ok (b.tree :: nodes)
  unescapes : (s.bannerText.map fun text => String.ofList (Markup.resolveReferences text.toList)) =
    some b.text

theorem displays_of_banner (s : Surface) {nodes : List Markup}
    (balanced : Markup.read s.fragment = .ok nodes) {m : HostMessage} {b : Banner}
    (puts : m.banner? = some b) : (s.apply m).Displays b nodes := by
  have screen := screen_of_banner s puts
  have fragment : (s.apply m).fragment = s.fragment := congrArg Screen.fragment screen
  have banner : (s.apply m).banner = some b := congrArg Screen.banner screen
  refine ⟨?_, ?_⟩
  · rw [read_view _ banner (label_of_banner puts), fragment, balanced]
    rfl
  · rw [bannerText_eq, banner]
    rfl

/-- **Errors are displayed, not interpreted.** Behind an error of whatever text and place, what a
surface with a balanced fragment shows is read as one banner and then the nodes of the fragment.
The banner holds its label and, behind a space, the text of the error as it is; the text is only
left out if it is blank. -/
theorem read_view_of_error (s : Surface) {nodes : List Markup}
    (balanced : Markup.read s.fragment = .ok nodes) (message : String) :
    (s.apply (.error message)).Displays ⟨"Error", message⟩ nodes ∧
      ∀ path, (s.apply (.schemaError message path)).Displays ⟨schemaLabel path, message⟩ nodes :=
  ⟨displays_of_banner s balanced rfl, fun _ => displays_of_banner s balanced rfl⟩

/-- Markup in an error is text on the surface. -/
theorem read_view_of_markup :
    Markup.read "<p>ok</p>" = .ok [.element "p" [] [.text "ok"]] ∧
      Displays (apply { fresh with fragment := "<p>ok</p>" } (.error "</div><b>&amp;"))
        ⟨"Error", "</div><b>&amp;"⟩ [.element "p" [] [.text "ok"]] :=
  have balanced : Markup.read "<p>ok</p>" = .ok [.element "p" [] [.text "ok"]] := by rfl
  ⟨balanced,
    (read_view_of_error { fresh with fragment := "<p>ok</p>" } balanced "</div><b>&amp;").1⟩

end Surface

end Wireframe.Preview
