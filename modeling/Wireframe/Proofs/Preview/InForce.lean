import Wireframe.Proofs.Preview.Flush
import Wireframe.Proofs.Preview.Outcomes
import Wireframe.Proofs.Preview.Uncached

/-! # What is in force

What can be said of a session at one time, whatever has happened to it: which source its results
are of (`Wireframe.Preview.Session.Records`), which file its theme is of
(`Wireframe.Preview.Session.InForce`), and that its style sheet and its good document are
what the theme and the document make of them, if the session can be reached at all
(`Wireframe.Preview.Session.Reached`). What every step preserves holds of all sessions that can be
reached (`Wireframe.Preview.Session.Reached.holds`).
-/

namespace Wireframe.Preview

namespace Session

variable {s t : Session} {e : Event} {sent : List HostMessage}

/-- A source is the last one a session was given. If it is a document, the document is good and
there is no failure after it; if not, what is wrong with it is the failure. -/
inductive Records (s : Session) (source : Source) : Prop where
  | good {r : Rendered} (parsed : Document.ofSource source = .ok r.document)
    (sheet : r.styleSheet = s.pipeline.styleSheet) (recorded : s.slot = ⟨some r, none⟩)
  | malformed {m : Document.Malformed}
    (unparsed : Document.ofSource source = .error (.malformed m))
    (recorded : s.slot.failed = some (.malformed m))
  | schema {fault : Document.SchemaFault}
    (unparsed : Document.ofSource source = .error (.schema fault))
    (recorded : s.slot.failed = some (.schema fault))

/-- The base of all themes stays as it is. -/
theorem Change.base (change : Change s e t sent) : t.pipeline.base = s.pipeline.base := by
  cases change <;> rfl

/-- The theme that is named is the one that an event loads, if it loads one. -/
theorem Change.theme (change : Change s e t sent) :
    t.pipeline.theme = (e.loaded? s.pipeline.base).getD s.pipeline.theme := by
  cases change with
  | rendered parsed => rfl
  | failed failure unparsed => rfl
  | themed resolved missing =>
      rw [Event.loaded?_of_theme? resolved]
      rfl
  | rerendered resolved present =>
      rw [Event.loaded?_of_theme? resolved]
      rfl
  | halfway loaded halved =>
      rw [loaded]
      rfl
  | answered => rfl
  | refused text refuses => rfl
  | opened => rfl
  | still unparsed unloaded =>
      rw [unloaded]
      rfl

/-- If the theme that is named has an encoding, the style sheet in force is its own. -/
def Sheeted (s : Session) : Prop :=
  s.pipeline.theme.hasHalves = false → s.pipeline.styleSheet = s.pipeline.theme.styleSheet

theorem Change.sheeted (change : Change s e t sent) (sheeted : s.Sheeted) : t.Sheeted := by
  intro whole
  cases change with
  | rendered parsed => exact sheeted whole
  | failed failure unparsed => exact sheeted whole
  | themed resolved missing => rfl
  | rerendered resolved present => rfl
  | halfway loaded halved => cases halved.symm.trans whole
  | answered => exact sheeted whole
  | refused text refuses => exact sheeted whole
  | opened => exact sheeted whole
  | still unparsed unloaded => exact sheeted whole

/-- A source that has an outcome is recorded. -/
theorem records_step {source : Source} {reaction : Reaction Outcome}
    (changed : s.documentChanged source = .ok reaction) :
    (s.step (.document source)).1.Records source := by
  rw [step, changed]
  rw [documentChanged, Pipeline.run] at changed
  cases read : Document.renderable source with
  | ok d =>
      rw [read] at changed
      cases changed
      exact .good (Document.ofSource_of_renderable read) rfl rfl
  | error fault =>
      rw [read] at changed
      have same := Document.ofSource_of_renderable_error read
      cases fault with
      | malformed m =>
          cases changed
          exact .malformed (same.resolve_right (by rintro ⟨_, _, _, ⟨⟩, -⟩)) rfl
      | schema fault =>
          cases changed
          exact .schema (same.resolve_right (by rintro ⟨_, _, _, ⟨⟩, -⟩)) rfl
      | scalar fault => cases changed

/-- A theme leaves the failure as it is. -/
theorem Change.failed_of_themeFile {file : Option (Theme.Content × String)}
    (change : Change s (.themeFile file) t sent) : t.slot.failed = s.slot.failed := by
  cases change <;> rfl

/-- What is recorded stays recorded when another theme comes into force. -/
theorem Records.themeFile {source : Source} {file : Option (Theme.Content × String)}
    (records : s.Records source) (change : Change s (.themeFile file) t sent) :
    t.Records source := by
  have failed := change.failed_of_themeFile
  cases records with
  | malformed unparsed recorded => exact .malformed unparsed (failed.trans recorded)
  | schema unparsed recorded => exact .schema unparsed (failed.trans recorded)
  | good parsed sheet recorded =>
      have present := congrArg Slot.good recorded
      have flawless := congrArg Slot.failed recorded
      cases change with
      | themed resolved missing => cases present.symm.trans missing
      | rerendered resolved good =>
          cases present.symm.trans good
          exact .good (r := ((s.pipeline.setTheme _).renderDocument _).1) parsed rfl
            (congrArg (Slot.mk _) flawless)
      | halfway loaded halved => exact .good parsed sheet recorded
      | still unparsed unloaded => exact .good parsed sheet recorded

theorem run_append (s : Session) (events more : List Event) :
    s.run (events ++ more) = (s.run events).run more := List.foldl_append

/-! ## Fragments under the theme in force -/

/-- A session that keeps only fragments made of some documents under some themes. The good document
is one of them, and its fragment is made under a theme with the variables of the one in force. -/
structure Keeps (s : Session) (base : Theme.Base) (docs : List Document)
    (themes : List Theme.Resolved) : Prop where
  pipeline : s.pipeline.Keeps base docs themes
  made : ∀ r ∈ s.slot.good, r.document ∈ docs ∧ ∃ theme ∈ themes,
    theme.«variables» = s.pipeline.theme.«variables» ∧
      r.fragment = Render.fragment r.document theme

variable {base : Theme.Base} {docs : List Document} {themes : List Theme.Resolved}

/-- A document that is rendered becomes the good one. -/
theorem Keeps.rendered {p : Pipeline} (keeps : p.Keeps base docs themes)
    (distinct : Distinguished docs) (tellable : ThemesDistinguished themes) {d : Document}
    (member : d ∈ docs) (failed : Option SourceFailure) (target : Option FilePath) (title : String)
    (format : Export.Format) :
    Keeps ⟨(p.renderDocument d).2, ⟨some (p.renderDocument d).1, failed⟩, target, title, format⟩
      base docs themes := by
  obtain ⟨⟨theme, met, same, rendered⟩, kept⟩ := keeps.renderDocument distinct tellable member
  refine ⟨kept, ?_⟩
  rintro r ⟨⟩
  rw [rendered]
  exact ⟨member, theme, met, same, rfl⟩

/-- What is kept is made under the theme in force as long as themes that are loaded have encodings.
-/
theorem Change.keeps (change : Change s e t sent) (distinct : Distinguished docs)
    (tellable : ThemesDistinguished themes) (whole : ∀ theme ∈ themes, theme.hasHalves = false)
    (keeps : s.Keeps base docs themes) (document : ∀ d ∈ e.document?, d ∈ docs)
    (loads : ∀ theme ∈ e.loaded? base, theme ∈ themes) : t.Keeps base docs themes := by
  obtain rfl := keeps.pipeline.founded
  cases change with
  | rendered parsed =>
      exact .rendered keeps.pipeline distinct tellable
        (document _ (congrArg Except.toOption parsed)) _ _ _ _
  | failed failure unparsed => exact ⟨keeps.pipeline, keeps.made⟩
  | themed resolved missing =>
      refine ⟨keeps.pipeline.setTheme (loads _ (Event.loaded?_of_theme? resolved)), ?_⟩
      intro r present
      cases missing.symm.trans present
  | rerendered resolved present =>
      exact .rendered (keeps.pipeline.setTheme (loads _ (Event.loaded?_of_theme? resolved)))
        distinct tellable (keeps.made _ present).1 _ _ _ _
  | halfway loaded halved => cases halved.symm.trans (whole _ (loads _ loaded))
  | answered => exact keeps
  | refused text refuses => exact keeps
  | opened => exact keeps
  | still unparsed unloaded => exact keeps

/-! ## Sessions that are reached -/

/-- A session that is reached: it begins with a pipeline that has been in use, and some events
happen to it. All of them have brought some documents, and loaded some themes after that of the
base. -/
inductive Reached (base : Theme.Base) : List Document → List Theme.Resolved → Session → Prop where
  | after (size : Int) (before events : List Event) (target : Option FilePath) (title : String)
    (format : Export.Format) :
    Reached base (documents (before ++ events)) (themesMet base (before ++ events))
      ((start ((start (Pipeline.start base size) none Export.defaultTitle .html).run
        before).pipeline target title format).run events)

theorem Reached.run (reached : s.Reached base docs themes) (events : List Event) :
    (s.run events).Reached base (docs ++ documents events)
      (themes ++ events.filterMap (Event.loaded? base)) := by
  cases reached with
  | after size before earlier target title format =>
      rw [← run_append, documents, documents, themesMet, List.cons_append, ← List.filterMap_append,
        ← List.filterMap_append, List.append_assoc]
      exact .after size before (earlier ++ events) target title format

/-- **What every step preserves.** It holds of all sessions that are reached if it holds of a
session with a new pipeline, and whenever another session begins with the pipeline of one before. -/
theorem Reached.holds {P : Session → Prop} (reached : s.Reached base docs themes)
    (fresh : ∀ size, P (start (Pipeline.start base size) none Export.defaultTitle .html))
    (anew : ∀ (s : Session) target title format, P s → P (start s.pipeline target title format))
    (preserves : ∀ (s : Session) (e : Event), (∀ d ∈ e.document?, d ∈ docs) →
      (∀ theme ∈ e.loaded? base, theme ∈ themes) → P s → P (s.step e).1) : P s := by
  cases reached with
  | after size before events target title format =>
      have step (s : Session) (e : Event) (happens : e ∈ before ++ events) (holds : P s) :
          P (s.step e).1 := by
        refine preserves s e (fun d brings => ?_) (fun theme brings => ?_) holds
        · exact List.mem_filterMap.mpr ⟨e, happens, brings⟩
        · exact List.mem_cons_of_mem _ (List.mem_filterMap.mpr ⟨e, happens, brings⟩)
      have used :
          P ((start (Pipeline.start base size) none Export.defaultTitle .html).run before) :=
        run_preserves (fun s e inside => step s e (List.mem_append_left events inside)) (fresh size)
      exact run_preserves (fun s e inside => step s e (List.mem_append_right before inside))
        (anew _ target title format used)

theorem Reached.founded (reached : s.Reached base docs themes) : s.pipeline.base = base :=
  reached.holds (fun _ => rfl) (fun _ _ _ _ => id)
    fun s e _ _ same => (s.change_step e).base.trans same

theorem Reached.sheeted (reached : s.Reached base docs themes) : s.Sheeted :=
  reached.holds (fun _ _ => rfl) (fun _ _ _ _ => id)
    fun s e _ _ sheeted => (s.change_step e).sheeted sheeted

/-- The good document is shown as it is. -/
theorem Reached.shown {all : List Document} (reached : s.Reached base docs themes)
    (distinct : Distinguished all) (members : docs ⊆ all) :
    ∀ r ∈ s.slot.good, r.fragment.markup = (Render.page r.document.page).write := by
  have follows : ∃ last theme loaded, s.Follows base all last theme loaded := by
    refine reached.holds (P := fun s => ∃ last theme loaded, s.Follows base all last theme loaded)
      (fun size => ?fresh) ?anew fun s e document _ follows => ?step
    case fresh =>
      exact ⟨none, _, _, Pipeline.follows_start base size all, rfl, fun r present => by
        cases present⟩
    case anew =>
      rintro s target title format ⟨last, theme, loaded, follows⟩
      exact ⟨none, theme, loaded, follows.pipeline, rfl, fun r present => by cases present⟩
    case step =>
      obtain ⟨last, theme, loaded, follows⟩ := follows
      exact ⟨_, _, _, (s.change_step e).follows distinct follows
        fun d brings => members (document d brings)⟩
  obtain ⟨last, theme, loaded, follows⟩ := follows
  exact fun r present => (follows.shown r present).2

/-- The fragment of the good document is the one that the theme in force makes, if all themes that
have been loaded have encodings and those with the same variables have the same index. -/
theorem Reached.fragments {all : List Document} {met : List Theme.Resolved}
    (reached : s.Reached base docs themes) (distinct : Distinguished all) (members : docs ⊆ all)
    (tellable : ThemesDistinguished met) (loaded : themes ⊆ met)
    (whole : ∀ theme ∈ met, theme.hasHalves = false) (told : IndexTold met) :
    ∀ r ∈ s.slot.good, r.fragment = Render.fragment r.document s.pipeline.theme := by
  have keeps : s.Keeps base all met := by
    refine reached.holds (P := fun s => s.Keeps base all met) (fun size => ?fresh) ?anew
      fun s e document loads keeps => ?step
    case fresh =>
      refine ⟨⟨rfl, loaded ?_, rfl, rfl, Cache.holds_empty size _⟩, fun r present => by
        cases present⟩
      cases reached
      exact List.mem_cons_self
    case anew =>
      exact fun s target title format keeps => ⟨keeps.pipeline, fun r present => by cases present⟩
    case step =>
      exact (s.change_step e).keeps distinct tellable whole keeps
        (fun d brings => members (document d brings))
        fun theme brings => loaded (loads theme brings)
  intro r present
  obtain ⟨-, theme, inside, same, made⟩ := keeps.made r present
  rw [made, fragment_of_variables r.document same
    (told theme inside _ keeps.pipeline.inForce same)]

/-! ## Themes of files -/

/-- The theme in force is the one that a file brings, or the one of the base without a file, and it
has an encoding. -/
structure InForce (s : Session) (file : Option (Theme.Content × String)) : Prop where
  resolved : Theme.Resolved.ofFile s.pipeline.base file = .ok s.pipeline.theme
  whole : s.pipeline.theme.hasHalves = false

theorem Change.inForce {file : Option (Theme.Content × String)} {theme : Theme.Resolved}
    (change : Change s (.themeFile file) t sent)
    (resolved : Theme.Resolved.ofFile s.pipeline.base file = .ok theme)
    (whole : theme.hasHalves = false) : t.InForce file := by
  have named : t.pipeline.theme = theme := by
    rw [change.theme, Event.loaded?, resolved]
    rfl
  exact ⟨by rw [change.base, named, resolved], named ▸ whole⟩

/-- A source leaves the theme as it is. -/
theorem theme_turn (s : Session) (source : Option (List UInt8)) :
    (s.turn source).1.pipeline.base = s.pipeline.base ∧
      (s.turn source).1.pipeline.theme = s.pipeline.theme := by
  cases source with
  | none => exact ⟨rfl, rfl⟩
  | some bytes =>
      have change := s.change_step (.document (.bytes bytes))
      exact ⟨change.base, change.theme⟩

theorem InForce.turn {file : Option (Theme.Content × String)} (inForce : s.InForce file)
    (source : Option (List UInt8)) : (s.turn source).1.InForce file := by
  obtain ⟨founded, named⟩ := s.theme_turn source
  exact ⟨by rw [founded, named, inForce.resolved], named ▸ inForce.whole⟩

end Session

end Wireframe.Preview
