import Wireframe.Preview.Server
import Wireframe.Proofs.Cache
import Wireframe.Proofs.Document.Payload
import Wireframe.Proofs.Export.Sheets
import Wireframe.Proofs.Preview.History
import Wireframe.Proofs.Render.Outline

/-! # The last good document

Whatever happens to a session, its good document is the last one that could be rendered, as
it would be for the first time under the last theme that has an encoding. So an export can be
told from the history alone: it is built from that document and that theme, from scratch, and it
is refused as long as there is no such document
(`Wireframe.Preview.Session.export_of_history`). The theme that the pipeline names is another
one where a theme without an encoding was loaded last: it is there, but its style sheet is not.

Fragments come from a cache that knows documents by their digests alone. That is sound
where no two of the documents met have the same digest.
-/

namespace Wireframe.Preview

/-- The documents that some events bring, in order. -/
def documents (events : List Event) : List Document := events.filterMap Event.document?

/-- The last document that some events bring. -/
def lastDocument (events : List Event) : Option Document := (documents events).getLast?

/-- The last theme that some events load over a base. -/
def lastLoaded? (base : Theme.Base) (events : List Event) : Option Theme.Resolved :=
  (events.filterMap (Event.loaded? base)).getLast?

/-- The theme loaded last in some events, or that of the base. -/
def lastLoaded (base : Theme.Base) (events : List Event) : Theme.Resolved :=
  (lastLoaded? base events).getD (.defaults base [])

/-- The last theme that some events bring over a base. -/
def lastTheme? (base : Theme.Base) (events : List Event) : Option Theme.Resolved :=
  (events.filterMap (Event.theme? base)).getLast?

/-- The theme in force after some events: the last one they bring, or that of the base. -/
def lastTheme (base : Theme.Base) (events : List Event) : Theme.Resolved :=
  (lastTheme? base events).getD (.defaults base [])

/-- The digests of the payloads of some documents tell the payloads apart. -/
def Distinguished (met : List Document) : Prop :=
  ∀ d ∈ met, ∀ e ∈ met, d.fingerprint = e.fingerprint → d.payload = e.payload

instance (met : List Document) : Decidable (Distinguished met) :=
  inferInstanceAs (Decidable (∀ d ∈ met, ∀ e ∈ met, d.fingerprint = e.fingerprint →
    d.payload = e.payload))

theorem getLast?_filterMap_cons {α β : Type} (f : α → Option β) (x : α) (xs : List α) :
    ((x :: xs).filterMap f).getLast? = ((xs.filterMap f).getLast?).or (f x) := by
  cases found : f x with
  | none => rw [List.filterMap_cons_none found, Option.or_none]
  | some y =>
      rw [List.filterMap_cons_some found, List.getLast?_cons]
      cases (xs.filterMap f).getLast? <;> rfl

theorem filterMap_theme? (base : Theme.Base) (events : List Event) :
    events.filterMap (Event.theme? base) =
      (events.filterMap (Event.loaded? base)).filter (!·.hasHalves) := by
  rw [List.filter_filterMap]
  rfl

/-- A theme that is loaded last and has an encoding is in force. -/
theorem lastLoaded_eq_lastTheme {base : Theme.Base} {events : List Event}
    (whole : (lastLoaded base events).hasHalves = false) :
    lastLoaded base events = lastTheme base events := by
  rw [lastTheme, lastTheme?, filterMap_theme?]
  rw [lastLoaded, lastLoaded?] at whole ⊢
  cases last : (events.filterMap (Event.loaded? base)).getLast? with
  | none => rw [List.getLast?_eq_none_iff.mp last, List.filter_nil, List.getLast?_nil]
  | some theme =>
      rw [last, Option.getD_some] at whole
      obtain ⟨before, split⟩ := List.getLast?_eq_some_iff.mp last
      rw [split, List.filter_append, List.filter_singleton]
      simp [whole]

/-! ## Cached fragments -/

/-- A fragment that shows a document with a digest, among some documents. -/
def Shown (met : List Document) (key : String × String) (fragment : Render.Fragment) : Prop :=
  ∃ d ∈ met, d.fingerprint = key.1 ∧ fragment.markup = (Render.page d.page).write

/-- Among documents with payloads of their own, a document is known by its digest. -/
theorem eq_of_fingerprint {met : List Document} (distinct : Distinguished met) {d e : Document}
    (member : d ∈ met) (other : e ∈ met) (same : d.fingerprint = e.fingerprint) : d = e :=
  Document.payload_inj (distinct d member e other same)

/-- Rendering shows the document it is given, whatever is in the cache. -/
theorem Pipeline.renderDocument_shown {p : Pipeline} {met : List Document} {d : Document}
    (distinct : Distinguished met) (member : d ∈ met) (holds : p.cache.Holds (Shown met)) :
    (p.renderDocument d).1.fragment.markup = (Render.page d.page).write ∧
      (p.renderDocument d).2.cache.Holds (Shown met) := by
  have made : Shown met (d.fingerprint, p.themeDigest) (Render.fragment d p.theme) :=
    ⟨d, member, rfl, rfl⟩
  obtain ⟨fetched, kept⟩ := Cache.fetch_holds (fun _ => Render.fragment d p.theme) holds made
  obtain ⟨e, other, same, markup⟩ := fetched
  obtain rfl := eq_of_fingerprint distinct other member same
  exact ⟨markup, kept⟩

/-! ## What the history leaves behind -/

/-- A pipeline over a base that has the style sheet of one theme and names the theme that was loaded
last, and with nothing in its cache but what shows one of the documents met. -/
structure Pipeline.Follows (p : Pipeline) (base : Theme.Base) (met : List Document)
    (theme loaded : Theme.Resolved) : Prop where
  founded : p.base = base
  named : p.theme = loaded
  digest : p.themeDigest = theme.fingerprint
  sheet : p.styleSheet = theme.styleSheet
  cached : p.cache.Holds (Shown met)

theorem Pipeline.follows_start (base : Theme.Base) (size : Int) (met : List Document) :
    (start base size).Follows base met (.defaults base []) (.defaults base []) :=
  ⟨rfl, rfl, rfl, rfl, Cache.holds_empty size (Shown met)⟩

section

variable {p : Pipeline} {base : Theme.Base} {met : List Document} {theme loaded : Theme.Resolved}

theorem Pipeline.Follows.setTheme (follows : p.Follows base met theme loaded)
    (next : Theme.Resolved) : (p.setTheme next).Follows base met next next :=
  ⟨follows.founded, rfl, rfl, rfl, follows.cached⟩

theorem Pipeline.Follows.renderDocument (follows : p.Follows base met theme loaded)
    (distinct : Distinguished met) {d : Document} (member : d ∈ met) :
    (p.renderDocument d).2.Follows base met theme loaded :=
  ⟨follows.founded, follows.named, follows.digest, follows.sheet,
    (renderDocument_shown distinct member follows.cached).2⟩

end

namespace Session

/-- A session whose good document is the last one that could be rendered, shown as it is, with the
style sheet of one theme and another one, or the same, loaded last. -/
structure Follows (s : Session) (base : Theme.Base) (met : List Document) (last : Option Document)
    (theme loaded : Theme.Resolved) : Prop where
  pipeline : s.pipeline.Follows base met theme loaded
  document : s.slot.good.map (·.document) = last
  shown : ∀ r ∈ s.slot.good,
    r.document ∈ met ∧ r.fragment.markup = (Render.page r.document.page).write

variable {s t : Session} {base : Theme.Base} {met : List Document} {last : Option Document}
  {theme loaded : Theme.Resolved} {e : Event} {sent : List HostMessage}

/-- **A step follows the history.** After an event, the good document is the one it brings if it
brings one, and the theme is the one it brings if it brings one. -/
theorem Change.follows (change : Change s e t sent) (distinct : Distinguished met)
    (follows : s.Follows base met last theme loaded) (member : ∀ d ∈ e.document?, d ∈ met) :
    t.Follows base met (e.document?.or last) ((e.theme? base).getD theme)
      ((e.loaded? base).getD loaded) := by
  obtain rfl := follows.pipeline.founded
  cases change with
  | rendered parsed =>
      rename_i source d
      have brings : (Event.document source).document? = some d := by
        rw [Event.document?, parsed]
        rfl
      have inside := member d brings
      rw [brings]
      refine ⟨follows.pipeline.renderDocument distinct inside, rfl, ?_⟩
      rintro r ⟨⟩
      exact ⟨inside, (Pipeline.renderDocument_shown distinct inside follows.pipeline.cached).1⟩
  | failed failure unparsed =>
      rw [unparsed]
      exact ⟨follows.pipeline, follows.document, follows.shown⟩
  | themed resolved missing =>
      rename_i next
      have loads := Event.loaded?_of_theme? resolved
      rw [Event.document?_of_loaded? loads, resolved, loads]
      exact ⟨follows.pipeline.setTheme next, follows.document, follows.shown⟩
  | rerendered resolved present =>
      rename_i next good
      have loads := Event.loaded?_of_theme? resolved
      rw [Event.document?_of_loaded? loads, resolved, loads]
      have inside := (follows.shown good present).1
      have themed := follows.pipeline.setTheme next
      have same := follows.document
      rw [present] at same
      refine ⟨themed.renderDocument distinct inside, same, ?_⟩
      rintro r ⟨⟩
      exact ⟨inside, (Pipeline.renderDocument_shown distinct inside themed.cached).1⟩
  | halfway loads halved =>
      rename_i next
      have unresolved : e.theme? s.pipeline.base = none := by
        rw [Event.theme?, loads, Option.filter_some_neg]
        simpa using halved
      rw [Event.document?_of_loaded? loads, unresolved, loads]
      obtain ⟨founded, -, digest, sheet, cached⟩ := follows.pipeline
      exact ⟨⟨founded, rfl, digest, sheet, cached⟩, follows.document, follows.shown⟩
  | answered => exact follows
  | refused text refuses => exact follows
  | opened => exact follows
  | still unparsed unloaded =>
      rw [unparsed, Event.theme?, unloaded]
      exact follows

/-- After several events, the good document is the last one they bring, or the one before if they
bring none, and likewise the themes. -/
theorem Follows.run (distinct : Distinguished met) (follows : s.Follows base met last theme loaded)
    (events : List Event) (members : ∀ d ∈ documents events, d ∈ met) :
    (s.run events).Follows base met ((lastDocument events).or last)
      ((lastTheme? base events).getD theme) ((lastLoaded? base events).getD loaded) := by
  induction events generalizing s last theme loaded with
  | nil => exact follows
  | cons e events ih =>
      have first : ∀ d ∈ e.document?, d ∈ met := fun d brings =>
        members d (List.mem_filterMap.mpr ⟨e, List.mem_cons_self, brings⟩)
      have others : ∀ d ∈ documents events, d ∈ met := by
        intro d brings
        obtain ⟨f, inside, same⟩ := List.mem_filterMap.mp brings
        exact members d (List.mem_filterMap.mpr ⟨f, List.mem_cons_of_mem e inside, same⟩)
      have next := ih ((s.change_step e).follows distinct follows first) others
      rw [lastDocument, documents, lastTheme?, lastLoaded?, getLast?_filterMap_cons,
        getLast?_filterMap_cons, getLast?_filterMap_cons, Option.or_assoc, Option.getD_or,
        Option.getD_or]
      exact next

/-! ## Exports -/

theorem Change.exportTitle (change : Change s e t sent) : t.exportTitle = s.exportTitle := by
  cases change <;> rfl

theorem exportTitle_run (s : Session) (events : List Event) :
    (s.run events).exportTitle = s.exportTitle :=
  run_preserves (P := fun t => t.exportTitle = s.exportTitle)
    (fun t e _ same => (t.change_step e).exportTitle.trans same) rfl

/-- Every format has an export of every rendered page. -/
theorem build_page (p : Document.Page) (format : Export.Format) (css title : String) :
    ∃ text, Export.build format (Render.page p).write css title = .ok text := by
  cases format with
  | html => exact ⟨_, rfl⟩
  | react =>
      obtain ⟨text, built, -⟩ := Export.React.carries_build p css title
      exact ⟨text, built⟩
  | pug =>
      rw [Export.build, Export.Pug.template, Render.read_page]
      exact ⟨_, rfl⟩

/-- A session without a good document refuses every export, and its answer to a request writes
nothing. -/
theorem refuses_of_good_eq_none (missing : s.slot.good = none) :
    (∀ format, s.build format = .error (.refused s.slot.failed)) ∧
      ∀ files, ∃ reaction, s.exportRequested = .ok reaction ∧
        Server.deliver files reaction.result = .ok files := by
  have refused : ∀ format, s.build format = .error (.refused s.slot.failed) := by
    intro format
    rw [build, Slot.exportText, missing]
  refine ⟨refused, fun files => ?_⟩
  unfold exportRequested
  cases s.exportTarget with
  | none => exact ⟨_, rfl, rfl⟩
  | some target =>
      rw [refused]
      exact ⟨_, rfl, rfl⟩

/-- A session exports its good document as it would be rendered from scratch. -/
theorem Follows.build {d : Document} (follows : s.Follows base met (some d) theme loaded)
    (current : s.Current) (format : Export.Format) :
    ∃ text, s.build format = .ok text ∧
      Export.build format (Render.fragment d theme).markup theme.styleSheet
        (titleOf d s.exportTitle) = .ok text := by
  obtain ⟨good, present, same⟩ := Option.map_eq_some_iff.mp follows.document
  obtain ⟨text, built⟩ := build_page d.page format theme.styleSheet (titleOf d s.exportTitle)
  refine ⟨text, ?_, built⟩
  rw [Session.build, Slot.exportText, present]
  dsimp only
  rw [(follows.shown good present).2, current good present, follows.pipeline.sheet, same, built]
  rfl

theorem lastTheme_append (base : Theme.Base) (before events : List Event) :
    lastTheme base (before ++ events) =
      (lastTheme? base events).getD (lastTheme base before) := by
  have joined : lastTheme? base (before ++ events) =
      (lastTheme? base events).or (lastTheme? base before) := by
    rw [lastTheme?, lastTheme?, lastTheme?, List.filterMap_append, List.getLast?_append]
  rw [lastTheme, joined, Option.getD_or, lastTheme]

theorem lastLoaded_append (base : Theme.Base) (before events : List Event) :
    lastLoaded base (before ++ events) =
      (lastLoaded? base events).getD (lastLoaded base before) := by
  have joined : lastLoaded? base (before ++ events) =
      (lastLoaded? base events).or (lastLoaded? base before) := by
    rw [lastLoaded?, lastLoaded?, lastLoaded?, List.filterMap_append, List.getLast?_append]
  rw [lastLoaded, joined, Option.getD_or, lastLoaded]

/-- **The export follows the history.** A pipeline has been in use before a session begins with it,
and then some events happen to the session. The good document is the last one that could be
rendered, as it would be for the first time under the last theme that has an encoding. As long as
there is none, every export is refused and a request for one writes nothing; from then on every
export is what is built from that document and that theme from scratch. The theme that the pipeline
names is the last one that was loaded, so it is that theme if it has an encoding. -/
theorem export_of_history (themes : Theme.Base) (size : Int) (before events : List Event)
    (target : Option FilePath) (title : String) (format : Export.Format)
    (distinct : Distinguished (documents (before ++ events))) :
    let first := start (Pipeline.start themes size) none Export.defaultTitle .html
    let p := (first.run before).pipeline
    let s := (start p target title format).run events
    let theme := lastTheme themes (before ++ events)
    (s.pipeline.theme = lastLoaded themes (before ++ events) ∧
      (s.pipeline.theme.hasHalves = false → s.pipeline.theme = theme)) ∧
      s.pipeline.styleSheet = theme.styleSheet ∧
      s.slot.good.map (·.document) = lastDocument events ∧
      (∀ r ∈ s.slot.good, r.fragment.markup = (Render.fragment r.document theme).markup ∧
        r.styleSheet = theme.styleSheet) ∧
      (lastDocument events = none →
        (∀ format, s.build format = .error (.refused s.slot.failed)) ∧
          ∀ files, ∃ reaction, s.exportRequested = .ok reaction ∧
            Server.deliver files reaction.result = .ok files) ∧
      ∀ d, lastDocument events = some d → ∀ format, ∃ text, s.build format = .ok text ∧
        Export.build format (Render.fragment d theme).markup theme.styleSheet (titleOf d title) =
          .ok text := by
  intro first p s theme
  have fresh : first.Follows themes (documents (before ++ events)) none (.defaults themes [])
      (.defaults themes []) :=
    ⟨Pipeline.follows_start themes size _, rfl, fun r present => by cases present⟩
  have used := fresh.run distinct before fun d brings => by
    rw [documents, List.filterMap_append]
    exact List.mem_append_left _ brings
  have started : (start p target title format).Follows themes (documents (before ++ events)) none
      (lastTheme themes before) (lastLoaded themes before) :=
    ⟨used.pipeline, rfl, fun r present => by cases present⟩
  have follows := started.run distinct events fun d brings => by
    rw [documents, List.filterMap_append]
    exact List.mem_append_right _ brings
  rw [Option.or_none, ← lastTheme_append, ← lastLoaded_append] at follows
  have current : s.Current := current_run (current_start p target title format) events
  have titled : s.exportTitle = title := exportTitle_run (start p target title format) events
  have named : s.pipeline.theme = lastLoaded themes (before ++ events) := follows.pipeline.named
  refine ⟨⟨named, fun whole => ?_⟩, follows.pipeline.sheet, follows.document, ?_, ?_, ?_⟩
  · rw [named] at whole ⊢
    exact lastLoaded_eq_lastTheme whole
  · intro r present
    exact ⟨(follows.shown r present).2, (current r present).trans follows.pipeline.sheet⟩
  · intro missing
    have document := follows.document
    rw [missing, Option.map_eq_none_iff] at document
    exact refuses_of_good_eq_none document
  · intro d last other
    rw [last] at follows
    rw [← titled]
    exact follows.build current other

/-- One document before a session, another in it, and a broken source after that: the exports are
those of the other document. -/
theorem export_of_history_two_documents :
    let before := [.document (.text "page: \x7b\x7d"), .theme none "theme"]
    let events := [.document (.text "page: \x7btitle: a\x7d"), .document (.text "page: [")]
    let first := start (Pipeline.start .builtin 32) none Export.defaultTitle .html
    let p := (first.run before).pipeline
    let s := (start p none "Preview" .html).run events
    let theme := lastTheme .builtin (before ++ events)
    Distinguished (documents (before ++ events)) ∧
      ∃ d, lastDocument events = some d ∧ ∀ format, ∃ text, s.build format = .ok text ∧
        Export.build format (Render.fragment d theme).markup theme.styleSheet
          (titleOf d "Preview") = .ok text :=
  have distinct : Distinguished (documents
      ([.document (.text "page: \x7b\x7d"), .theme none "theme"] ++
        [.document (.text "page: \x7btitle: a\x7d"), .document (.text "page: [")])) := by
    decide +kernel
  have ⟨d, last⟩ := Option.isSome_iff_exists.mp (show (lastDocument
      [.document (.text "page: \x7btitle: a\x7d"), .document (.text "page: [")]).isSome = true by
    decide +kernel)
  ⟨distinct, d, last,
    (export_of_history _ 32 _ _ none "Preview" .html distinct).2.2.2.2.2 d last⟩

/-- The text of a theme with two tokens, one of which has half of a surrogate pair. -/
def halvedThemeText : String := "theme: \x7btokens: \x7bb: red, a: \"\\ud800\"\x7d\x7d"

/-- A theme without an encoding is named by the pipeline, but the good document keeps the style
sheet of the theme before it. -/
theorem sheet_of_halved_theme :
    ¬ ∀ (themes : Theme.Base) (size : Int) (events : List Event),
      let s := (start (Pipeline.start themes size) none Export.defaultTitle .html).run events
      ∀ r ∈ s.slot.good, r.styleSheet = s.pipeline.theme.styleSheet := by
  intro every
  let events : List Event :=
    [.document (.text "page: \x7b\x7d"), .theme (some halvedThemeText) "theme"]
  have fresh : Follows (start (Pipeline.start .bare 1) none Export.defaultTitle .html)
      .bare (documents events) none (.defaults _ []) (.defaults _ []) :=
    ⟨Pipeline.follows_start _ 1 _, rfl, fun r present => by cases present⟩
  have distinct : Distinguished (documents events) := by decide +kernel
  have follows := fresh.run distinct events fun d => id
  have given : (lastDocument events).isSome = true := by decide +kernel
  obtain ⟨d, last⟩ := Option.isSome_iff_exists.mp given
  have document := follows.document
  rw [last] at document
  obtain ⟨r, present, -⟩ := Option.map_eq_some_iff.mp document
  have current := current_run (current_start _ none Export.defaultTitle .html) events r present
  have same := every _ 1 events r present
  rw [current, follows.pipeline.sheet, follows.pipeline.named] at same
  have differs : ((lastTheme? .bare events).getD (.defaults .bare [])).styleSheet ≠
      ((lastLoaded? .bare events).getD (.defaults .bare [])).styleSheet := by
    decide +kernel
  exact differs same

end Session

end Wireframe.Preview
