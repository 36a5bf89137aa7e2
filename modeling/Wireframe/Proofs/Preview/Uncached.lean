import Wireframe.Proofs.Preview.LastGood
import Wireframe.Proofs.Render.Reached
import Wireframe.Proofs.Theme.Fallback
import Wireframe.Proofs.Theme.Index

/-! # Rendering without a cache

A pipeline that has been in use renders a source as a new one does that has kept nothing and
has the last theme with an encoding, as far as document, markup, style sheet and failure go. The
variables of a fragment are those of a theme with the same variables as the theme in force. That
may be an earlier theme with another index of component styles, and then they are not the ones
that a new pipeline finds (`Wireframe.Preview.Pipeline.run_uncached`). It takes a token that has
the key of a component style to get there, or a theme without an encoding, which goes by the
digest of the theme before it.

Digests are taken to tell apart the documents and the themes that are met.
-/

namespace Wireframe.Preview

/-! ## Pipelines in use -/

/-- The themes that are named in the course of some events: that of the base, and what they load. -/
def themesMet (base : Theme.Base) (events : List Event) : List Theme.Resolved :=
  .defaults base [] :: events.filterMap (Event.loaded? base)

/-- What is done with a pipeline: a theme is loaded, or a source is run. -/
inductive Operation where
  | load (content : Option String) (source : String)
  | run (source : Source)

/-- The event of a session that an operation is like. -/
def Operation.event : Operation → Event
  | .load content source => .theme content source
  | .run source => .document source

/-- The documents that some operations bring, in order. -/
def Operation.documents (ops : List Operation) : List Document :=
  Preview.documents (ops.map event)

/-- The themes that are named in the course of some operations. -/
def Operation.themes (base : Theme.Base) (ops : List Operation) : List Theme.Resolved :=
  themesMet base (ops.map event)

/-- The last theme with an encoding in the course of some operations. -/
def Operation.lastTheme (base : Theme.Base) (ops : List Operation) : Theme.Resolved :=
  Preview.lastTheme base (ops.map event)

namespace Pipeline

/-- Does an operation. One that breaks off leaves the pipeline as it is, but for a theme without an
encoding, which is then halfway in force. -/
def step (p : Pipeline) : Operation → Pipeline
  | .load content source => (p.loadTheme content source).1
  | .run source => ((p.run source).toOption.map (·.2)).getD p

/-- Does several operations one after the other. -/
def steps (p : Pipeline) (ops : List Operation) : Pipeline := ops.foldl step p

/-- What an operation does to a pipeline. -/
inductive Turn (p : Pipeline) : Operation → Pipeline → Prop where
  | themed {content : Option String} {source : String} {theme : Theme.Resolved}
    (loaded : (Event.theme content source).loaded? p.base = some theme)
    (whole : theme.hasHalves = false) : Turn p (.load content source) (p.setTheme theme)
  | halfway {content : Option String} {source : String} {theme : Theme.Resolved}
    (loaded : (Event.theme content source).loaded? p.base = some theme)
    (halved : theme.hasHalves = true) :
    Turn p (.load content source) { p with theme := theme }
  | rendered {source : Source} {d : Document} (parsed : Document.renderable source = .ok d) :
    Turn p (.run source) (p.renderDocument d).2
  | still {op : Operation} (unparsed : op.event.document? = none)
    (unloaded : op.event.loaded? p.base = none) : Turn p op p

theorem turn_step (p : Pipeline) (op : Operation) : p.Turn op (p.step op) := by
  cases op with
  | load content source =>
      rw [step, loadTheme]
      cases resolved : Theme.Resolved.ofText p.base content source with
      | error cause => exact .still rfl (congrArg Except.toOption resolved)
      | ok theme =>
          have loaded : (Event.theme content source).loaded? p.base = some theme :=
            congrArg Except.toOption resolved
          cases halved : theme.hasHalves with
          | true =>
              rw [takeTheme, halved]
              exact .halfway loaded halved
          | false =>
              rw [takeTheme, halved]
              exact .themed loaded halved
  | run source =>
      rw [step, run]
      cases parsed : Document.renderable source with
      | ok d => exact .rendered parsed
      | error fault =>
          have unparsed : (Event.document source).document? = none :=
            congrArg Except.toOption parsed
          cases fault <;> exact .still unparsed rfl

theorem step_load {p : Pipeline} {content : Option String} {source : String}
    {theme : Theme.Resolved} (resolved : (Event.theme content source).theme? p.base = some theme) :
    p.step (.load content source) = p.setTheme theme := by
  have turn := p.turn_step (.load content source)
  generalize p.step (.load content source) = q at turn
  have brings := Event.loaded?_of_theme? resolved
  cases turn with
  | themed loaded whole =>
      obtain rfl := Option.some.inj (brings.symm.trans loaded)
      rfl
  | halfway loaded halved =>
      obtain rfl := Option.some.inj (brings.symm.trans loaded)
      have whole := (Option.filter_eq_some_iff.mp resolved).2
      rw [halved] at whole
      cases whole
  | still unparsed unloaded => cases brings.symm.trans unloaded

theorem step_run {p : Pipeline} {source : Source} {d : Document}
    (parsed : Document.renderable source = .ok d) :
    p.step (.run source) = (p.renderDocument d).2 := by
  rw [step, run, parsed]
  rfl

end Pipeline

/-! ## Telling themes apart -/

/-- The digests of the variables of some themes tell the variables apart. -/
def ThemesDistinguished (met : List Theme.Resolved) : Prop :=
  ∀ s ∈ met, ∀ t ∈ met, s.fingerprint = t.fingerprint →
    s.toJson.write .spaced = t.toJson.write .spaced

/-- The texts are compared first: only where they differ do digests have to be found. -/
instance (met : List Theme.Resolved) : Decidable (ThemesDistinguished met) :=
  decidable_of_iff (∀ s ∈ met, ∀ t ∈ met,
      s.toJson.write .spaced = t.toJson.write .spaced ∨ s.fingerprint ≠ t.fingerprint) <| by
    simp only [ThemesDistinguished, or_comm, ← imp_iff_not_or]

/-- Among some themes, those with the same variables have the same index of component styles. -/
def IndexTold (met : List Theme.Resolved) : Prop :=
  ∀ s ∈ met, ∀ t ∈ met, s.«variables» = t.«variables» → s.components = t.components

instance (met : List Theme.Resolved) : Decidable (IndexTold met) :=
  inferInstanceAs (Decidable (∀ s ∈ met, ∀ t ∈ met, s.«variables» = t.«variables» →
    s.components = t.components))

theorem plain_toJson (theme : Theme.Resolved) : theme.toJson.Plain := by
  refine Json.allPlain_iff.mpr fun item member => ?_
  obtain ⟨e, _, rfl⟩ := List.mem_map.mp member
  exact ⟨trivial, trivial, trivial⟩

/-- Among themes with digests of their own, the variables are known by the digest. -/
theorem variables_of_fingerprint {met : List Theme.Resolved} (distinct : ThemesDistinguished met)
    {s t : Theme.Resolved} (member : s ∈ met) (other : t ∈ met)
    (same : s.fingerprint = t.fingerprint) : s.«variables» = t.«variables» := by
  have written := distinct s member t other same
  have alike := Json.write_inj Json.Style.telling_spaced (plain_toJson s) (plain_toJson t) written
  refine (List.map_inj_right ?_).mp (Json.list.inj alike)
  rintro ⟨key, value⟩ ⟨key', value'⟩ pairs
  cases pairs
  rfl

/-! ## Fragments that are kept -/

/-- A fragment of one of the documents met under one of the themes met, and its key. -/
def Made (docs : List Document) (themes : List Theme.Resolved) (key : String × String)
    (fragment : Render.Fragment) : Prop :=
  ∃ d ∈ docs, ∃ t ∈ themes, key = (d.fingerprint, t.fingerprint) ∧ fragment = Render.fragment d t

/-- A pipeline whose theme is one of those met, and which keeps only fragments made of what has been
met. -/
structure Pipeline.Keeps (p : Pipeline) (base : Theme.Base) (docs : List Document)
    (themes : List Theme.Resolved) : Prop where
  founded : p.base = base
  inForce : p.theme ∈ themes
  digest : p.themeDigest = p.theme.fingerprint
  sheet : p.styleSheet = p.theme.styleSheet
  kept : p.cache.Holds (Made docs themes)

namespace Pipeline

variable {p : Pipeline} {base : Theme.Base} {docs : List Document} {themes : List Theme.Resolved}

theorem Keeps.setTheme (keeps : p.Keeps base docs themes) {theme : Theme.Resolved}
    (member : theme ∈ themes) : (p.setTheme theme).Keeps base docs themes :=
  ⟨keeps.founded, member, rfl, rfl, keeps.kept⟩

/-- A document is rendered as it was under one of the themes met, which has the same variables as
the theme in force. -/
theorem Keeps.renderDocument (keeps : p.Keeps base docs themes) (distinct : Distinguished docs)
    (tellable : ThemesDistinguished themes) {d : Document} (member : d ∈ docs) :
    (∃ t ∈ themes, t.«variables» = p.theme.«variables» ∧
      (p.renderDocument d).1 = ⟨d, Render.fragment d t, p.theme.styleSheet⟩) ∧
    (p.renderDocument d).2.Keeps base docs themes := by
  have made : Made docs themes (d.fingerprint, p.themeDigest) (Render.fragment d p.theme) :=
    ⟨d, member, p.theme, keeps.inForce, by rw [keeps.digest], rfl⟩
  obtain ⟨fetched, kept⟩ := Cache.fetch_holds (fun _ => Render.fragment d p.theme) keeps.kept made
  refine ⟨?_, keeps.founded, keeps.inForce, keeps.digest, keeps.sheet, kept⟩
  obtain ⟨e, other, t, met, key, fragment⟩ := fetched
  obtain ⟨document, theme⟩ := Prod.mk.inj key
  obtain rfl := eq_of_fingerprint distinct member other document
  rw [keeps.digest] at theme
  refine ⟨t, met, variables_of_fingerprint tellable met keeps.inForce theme.symm, ?_⟩
  rw [← keeps.sheet, ← fragment]
  rfl

theorem Keeps.step (keeps : p.Keeps base docs themes) (distinct : Distinguished docs)
    (tellable : ThemesDistinguished themes) (whole : ∀ t ∈ themes, t.hasHalves = false)
    {op : Operation} (document : ∀ d ∈ op.event.document?, d ∈ docs)
    (theme : ∀ t ∈ op.event.loaded? base, t ∈ themes) : (p.step op).Keeps base docs themes := by
  have turn := p.turn_step op
  rw [keeps.founded.symm] at theme
  generalize p.step op = q at turn
  cases turn with
  | themed loaded _ => exact keeps.setTheme (theme _ loaded)
  | halfway loaded halved => cases halved.symm.trans (whole _ (theme _ loaded))
  | rendered parsed =>
      exact (keeps.renderDocument distinct tellable
        (document _ (congrArg Except.toOption parsed))).2
  | still unparsed unloaded => exact keeps

theorem Keeps.steps (keeps : p.Keeps base docs themes) (distinct : Distinguished docs)
    (tellable : ThemesDistinguished themes) (whole : ∀ t ∈ themes, t.hasHalves = false)
    (ops : List Operation) (document : ∀ d ∈ Operation.documents ops, d ∈ docs)
    (theme : ∀ t ∈ (ops.map Operation.event).filterMap (Event.loaded? base), t ∈ themes) :
    (p.steps ops).Keeps base docs themes := by
  induction ops generalizing p with
  | nil => exact keeps
  | cons op ops ih =>
      have first : (p.step op).Keeps base docs themes := by
        refine keeps.step distinct tellable whole (fun d brings => document d ?_)
          fun t brings => theme t ?_
        · exact List.mem_filterMap.mpr ⟨op.event, List.mem_cons_self, brings⟩
        · exact List.mem_filterMap.mpr ⟨op.event, List.mem_cons_self, brings⟩
      refine ih first (fun d later => document d ?_) fun t later => theme t ?_
      · exact (List.Sublist.filterMap _ (List.sublist_cons_self op.event _)).mem later
      · exact (List.Sublist.filterMap _ (List.sublist_cons_self op.event _)).mem later

/-! ## What the operations leave behind -/

variable {theme loaded : Theme.Resolved}

/-- After an operation, the theme is the one it brings if it brings one. -/
theorem Follows.step (follows : p.Follows base docs theme loaded) (distinct : Distinguished docs)
    {op : Operation} (document : ∀ d ∈ op.event.document?, d ∈ docs) :
    (p.step op).Follows base docs ((op.event.theme? base).getD theme)
      ((op.event.loaded? base).getD loaded) := by
  have turn := p.turn_step op
  obtain rfl := follows.founded
  generalize p.step op = q at turn
  cases turn with
  | @themed content source next loads whole =>
      have resolved : (Event.theme content source).theme? p.base = some next :=
        Option.filter_eq_some_iff.mpr ⟨loads, by simpa using whole⟩
      rw [Operation.event, resolved, loads]
      exact follows.setTheme next
  | @halfway content source next loads halved =>
      have unresolved : (Event.theme content source).theme? p.base = none := by
        rw [Event.theme?, loads, Option.filter_some_neg]
        simpa using halved
      rw [Operation.event, unresolved, loads]
      obtain ⟨founded, -, digest, sheet, cached⟩ := follows
      exact ⟨founded, rfl, digest, sheet, cached⟩
  | rendered parsed =>
      exact follows.renderDocument distinct (document _ (congrArg Except.toOption parsed))
  | still unparsed unloaded =>
      rw [Event.theme?, unloaded]
      exact follows

theorem Follows.steps (follows : p.Follows base docs theme loaded) (distinct : Distinguished docs)
    (ops : List Operation) (members : ∀ d ∈ Operation.documents ops, d ∈ docs) :
    (p.steps ops).Follows base docs ((lastTheme? base (ops.map Operation.event)).getD theme)
      ((lastLoaded? base (ops.map Operation.event)).getD loaded) := by
  induction ops generalizing p theme loaded with
  | nil => exact follows
  | cons op ops ih =>
      have first : (p.step op).Follows base docs ((op.event.theme? base).getD theme)
          ((op.event.loaded? base).getD loaded) := follows.step distinct fun d brings =>
        members d (List.mem_filterMap.mpr ⟨op.event, List.mem_cons_self, brings⟩)
      have next := ih first fun d later =>
        members d ((List.Sublist.filterMap _ (List.sublist_cons_self op.event _)).mem later)
      rw [List.map_cons, lastTheme?, lastLoaded?, getLast?_filterMap_cons,
        getLast?_filterMap_cons, Option.getD_or, Option.getD_or]
      exact next

end Pipeline

/-! ## The same with and without -/

/-- A fragment depends on a theme through its variables and its index of component styles. -/
theorem fragment_of_variables (d : Document) {s t : Theme.Resolved}
    (same : s.«variables» = t.«variables») (indexed : s.components = t.components) :
    Render.fragment d s = Render.fragment d t := by
  have references (kind : Document.Kind) (variant : Option String) :
      Render.styleReferences s kind variant = Render.styleReferences t kind variant := by
    simp only [Render.styleReferences, indexed]
  simp only [Render.fragment, Render.variables, Render.named, same, references]

/-- What becomes of a source. -/
abbrev Result := Except Yaml.ScalarFault Outcome

/-- Two results of a source that agree in all but the variables of a fragment. -/
inductive Result.Alike : Result → Result → Prop where
  | rendered {r s : Rendered} (document : r.document = s.document)
    (markup : r.fragment.markup = s.fragment.markup) (sheet : r.styleSheet = s.styleSheet) :
    Alike (.ok (.rendered r)) (.ok (.rendered s))
  | failed (failure : SourceFailure) : Alike (.ok (.failed failure)) (.ok (.failed failure))
  | broken (fault : Yaml.ScalarFault) : Alike (.error fault) (.error fault)

/-- The variables of the fragment, if there is one. -/
def Result.variables : Result → List String
  | .ok (.rendered r) => r.fragment.«variables»
  | .ok (.failed _) | .error _ => []

/-- What becomes of a source in a pipeline, which may change in the course. -/
def Pipeline.result (p : Pipeline) (source : Source) : Result := (p.run source).map (·.1)

/-- The tokens of the base, and those of the themes that some operations load, have no keys of
component styles. -/
def Operation.Apart (base : Theme.Base) (ops : List Operation) : Prop :=
  Theme.Apart base.tokens ∧ ∀ content source tokens styles,
    Operation.load (some content) source ∈ ops → Theme.Says content (some tokens) styles →
      Theme.Apart tokens

/-- A theme with the variables and the index that come of a base, some tokens that have no keys of
component styles, and some component styles. -/
def Layered (base : Theme.Base) (theme : Theme.Resolved) : Prop :=
  ∃ user styles, (∀ tokens ∈ user, Theme.Apart tokens) ∧
    theme.«variables» = (Theme.resolve base.tokens user styles []).«variables» ∧
      theme.components = (Theme.resolve base.tokens user styles []).components

theorem layered_defaults (base : Theme.Base) : Layered base (.defaults base []) :=
  ⟨none, some base.styles, nofun, rfl, rfl⟩

theorem layered_of_ofText {base : Theme.Base} {content source : String} {theme : Theme.Resolved}
    (resolved : Theme.Resolved.ofText base (some content) source = .ok theme)
    (apart : ∀ tokens styles, Theme.Says content (some tokens) styles → Theme.Apart tokens) :
    Layered base theme := by
  have comes := Theme.Resolved.comes_ofText base content source
  rw [resolved] at comes
  cases comes with
  | refused nothing falls => exact ⟨none, _, nofun, falls.variables, falls.components⟩
  | @applied tokens styles told =>
      refine ⟨tokens, _, ?_, rfl, rfl⟩
      rintro tokens rfl
      exact apart tokens styles told

theorem Operation.Apart.layered {base : Theme.Base} {ops : List Operation}
    (apart : Operation.Apart base ops) {theme : Theme.Resolved}
    (member : theme ∈ Operation.themes base ops) : Layered base theme := by
  rcases List.mem_cons.mp member with rfl | loaded
  · exact layered_defaults base
  · obtain ⟨e, event, brings⟩ := List.mem_filterMap.mp loaded
    obtain ⟨op, inside, rfl⟩ := List.mem_map.mp event
    cases op with
    | run source => cases brings
    | load content source =>
        rw [Operation.event, Event.loaded?] at brings
        cases resolved : Theme.Resolved.ofText base content source with
        | error cause =>
            rw [resolved] at brings
            cases brings
        | ok next =>
            rw [resolved] at brings
            cases brings
            cases content with
            | none =>
                cases resolved
                exact layered_defaults base
            | some content =>
                exact layered_of_ofText resolved fun tokens styles =>
                  apart.2 content source tokens styles inside

theorem indexTold_of_apart {base : Theme.Base} {ops : List Operation}
    (apart : Operation.Apart base ops) : IndexTold (Operation.themes base ops) := by
  intro s member t other same
  obtain ⟨user, styles, above, variables₁, components₁⟩ := apart.layered member
  obtain ⟨others, more, also, variables₂, components₂⟩ := apart.layered other
  rw [variables₁, variables₂] at same
  rw [components₁, components₂]
  exact Theme.components_of_variables apart.1 above also same

/-- A document that can be rendered has been brought when its source is run last. -/
theorem Operation.mem_documents {ops : List Operation} {source : Source} {d : Document}
    (parsed : Document.renderable source = .ok d) :
    d ∈ Operation.documents (ops ++ [.run source]) := by
  refine List.mem_filterMap.mpr ⟨.document source, ?_, congrArg Except.toOption parsed⟩
  exact List.mem_map.mpr ⟨.run source, by simp, rfl⟩

theorem Operation.subset_documents (ops more : List Operation) :
    Operation.documents ops ⊆ Operation.documents (ops ++ more) := by
  intro d earlier
  rw [Operation.documents, List.map_append, Preview.documents, List.filterMap_append]
  exact List.mem_append_left _ earlier

/-- Where a document is rendered in the same way by two pipelines, or alike, so is every source. -/
theorem Pipeline.result_congr {related : Result → Result → Prop} {p q : Pipeline} {source : Source}
    (same : ∀ result, related result result)
    (rendered : ∀ d, Document.renderable source = .ok d →
      related (.ok (.rendered (p.renderDocument d).1)) (.ok (.rendered (q.renderDocument d).1))) :
    related (p.result source) (q.result source) := by
  rw [result, result, run, run]
  cases parsed : Document.renderable source with
  | ok d => exact rendered d parsed
  | error fault => cases fault <;> exact same _

theorem Result.Alike.refl (result : Result) : result.Alike result := by
  match result with
  | .ok (.rendered r) => exact .rendered rfl rfl rfl
  | .ok (.failed failure) => exact .failed failure
  | .error fault => exact .broken fault

/-- **The cache shows in nothing but variables.** After any operations, a source comes to the same
as in a new pipeline with no cache and the last theme that has an encoding: the same document,
markup and style sheet, or the same failure, or the same breaking off. That is the theme that the
pipeline names, if that one has an encoding. The variables of the fragment are the same too, unless
a theme without an encoding was loaded, or two of the themes met have the same variables and not the
same index of component styles. There are no such two themes where no token has the key of a
component style. -/
theorem Pipeline.run_uncached (base : Theme.Base) (size : Int) (ops : List Operation)
    (source : Source) (distinct : Distinguished (Operation.documents (ops ++ [.run source])))
    (tellable : ThemesDistinguished (Operation.themes base ops)) :
    let p := (start base size).steps ops
    let theme := Operation.lastTheme base ops
    let fresh := (start base 0).setTheme theme
    (p.theme.hasHalves = false → p.theme = theme) ∧
      Result.Alike (p.result source) (fresh.result source) ∧
      ((∀ t ∈ Operation.themes base ops, t.hasHalves = false) →
        IndexTold (Operation.themes base ops) → p.result source = fresh.result source) ∧
      (Operation.Apart base ops → IndexTold (Operation.themes base ops)) := by
  intro p theme fresh
  have follows : p.Follows base (Operation.documents (ops ++ [.run source])) theme
      (lastLoaded base (ops.map Operation.event)) :=
    (Pipeline.follows_start base size _).steps distinct ops
      fun d earlier => Operation.subset_documents ops _ earlier
  have named : p.theme.hasHalves = false → p.theme = theme := by
    rw [follows.named]
    exact lastLoaded_eq_lastTheme
  refine ⟨named, ?alike, ?same, indexTold_of_apart⟩
  case alike =>
    refine result_congr Result.Alike.refl fun d parsed => .rendered rfl ?_ follows.sheet
    exact (renderDocument_shown distinct (Operation.mem_documents parsed) follows.cached).1
  case same =>
    intro whole told
    have started : (start base size).Keeps base (Operation.documents (ops ++ [.run source]))
        (Operation.themes base ops) :=
      ⟨rfl, List.mem_cons_self, rfl, rfl, Cache.holds_empty size _⟩
    have keeps : p.Keeps base (Operation.documents (ops ++ [.run source]))
        (Operation.themes base ops) :=
      started.steps distinct tellable whole ops
        (fun d earlier => Operation.subset_documents ops _ earlier)
        fun t loaded => List.mem_cons_of_mem _ loaded
    have current : p.theme = theme := named (whole _ keeps.inForce)
    refine result_congr (fun _ => rfl) fun d parsed => ?_
    obtain ⟨⟨t, met, same, rendered⟩, -⟩ :=
      keeps.renderDocument distinct tellable (Operation.mem_documents parsed)
    have anew : (fresh.renderDocument d).1 = ⟨d, Render.fragment d theme, theme.styleSheet⟩ := rfl
    rw [rendered, anew, ← current,
      fragment_of_variables d same (told t met p.theme keeps.inForce same)]

/-- A page is run, a theme is loaded, and the page is run again: the result is that of a new
pipeline with the theme. -/
theorem Pipeline.run_uncached_page :
    let page := Source.text "page: \x7b\x7d"
    let ops := [.run page, .load (some "theme: \x7btokens: \x7ba: 1\x7d\x7d") "theme"]
    let p := (start .bare 2).steps ops
    let fresh := (start .bare 0).setTheme (Operation.lastTheme .bare ops)
    Distinguished (Operation.documents (ops ++ [.run page])) ∧
      ThemesDistinguished (Operation.themes .bare ops) ∧
      (∀ t ∈ Operation.themes .bare ops, t.hasHalves = false) ∧
      IndexTold (Operation.themes .bare ops) ∧ p.result page = fresh.result page := by
  intro page ops p fresh
  have distinct : Distinguished (Operation.documents (ops ++ [.run page])) := by
    decide +kernel
  have tellable : ThemesDistinguished (Operation.themes .bare ops) := by
    decide +kernel
  have whole : ∀ t ∈ Operation.themes .bare ops, t.hasHalves = false := by
    decide +kernel
  have told : IndexTold (Operation.themes .bare ops) := by
    decide +kernel
  exact ⟨distinct, tellable, whole, told,
    (run_uncached .bare 2 ops page distinct tellable).2.2.1 whole told⟩

/-! ## Where the cache shows -/

/-- A document that was rendered under a theme is rendered as it was under a theme with the same
variables. -/
theorem Pipeline.renderDocument_again (base : Theme.Base) {size : Int} (room : 1 ≤ size)
    (d : Document) {s t : Theme.Resolved} (same : s.«variables» = t.«variables») :
    (((((start base size).setTheme s).renderDocument d).2.setTheme t).renderDocument d).1 =
      ⟨d, Render.fragment d s, t.styleSheet⟩ := by
  have digest : t.fingerprint = s.fingerprint := by
    rw [Theme.Resolved.fingerprint, Theme.Resolved.fingerprint, Theme.Resolved.toJson,
      Theme.Resolved.toJson, same]
  have small : ¬ size < 1 := by omega
  simp [start, setTheme, renderDocument, renderCached, Cache.fetch, Cache.empty, Cache.trim,
    Table.get?, digest, small]

/-- Where a document has been rendered under one theme, the fragment under another theme with the
same variables is the one of the first theme, and a new pipeline makes that of the second. -/
theorem Pipeline.results_of_same_variables {base : Theme.Base} {size : Int} (room : 1 ≤ size)
    {before after label : String} {source : Source} {s t : Theme.Resolved} {d : Document}
    (first : (Event.theme (some before) label).theme? base = some s)
    (second : (Event.theme (some after) label).theme? base = some t)
    (parsed : Document.renderable source = .ok d) (same : s.«variables» = t.«variables») :
    let ops := [.load (some before) label, .run source, .load (some after) label]
    let p := (start base size).steps ops
    let fresh := (start base 0).setTheme p.theme
    Operation.documents (ops ++ [.run source]) = [d, d] ∧
      Operation.themes base ops = [.defaults base [], s, t] ∧
      p.result source = .ok (.rendered ⟨d, Render.fragment d s, t.styleSheet⟩) ∧
      fresh.result source = .ok (.rendered ⟨d, Render.fragment d t, t.styleSheet⟩) := by
  intro ops p fresh
  have begun : (start base size).step (.load (some before) label) =
      (start base size).setTheme s := step_load first
  have used : p = (((start base size).setTheme s).renderDocument d).2.setTheme t := by
    have done : p = (((start base size).step (.load (some before) label)).step
        (.run source)).step (.load (some after) label) := rfl
    rw [done, begun, step_run parsed]
    exact step_load second
  have result (q : Pipeline) : q.result source = .ok (.rendered (q.renderDocument d).1) := by
    rw [Pipeline.result, run, parsed]
    rfl
  refine ⟨?_, ?_, ?_, ?_⟩
  · have brings : (Event.document source).document? = some d := congrArg Except.toOption parsed
    have none (content : Option String) : (Event.theme content label).document? = none := rfl
    simp only [ops, Operation.documents, documents, List.cons_append, List.nil_append,
      List.map_cons, List.map_nil, Operation.event, List.filterMap_cons, List.filterMap_nil, brings,
      none]
  · have begins := Event.loaded?_of_theme? first
    have ends := Event.loaded?_of_theme? second
    have none : (Event.document source).loaded? base = none := rfl
    simp only [ops, Operation.themes, themesMet, List.map_cons, List.map_nil, Operation.event,
      List.filterMap_cons, List.filterMap_nil, begins, ends, none]
  · rw [result, used, renderDocument_again base room d same]
  · rw [result, show fresh = (start base 0).setTheme p.theme from rfl, used]
    rfl

/-- A theme with one token, whose key is that of a component style. -/
def tokenTheme : Theme.Resolved := ⟨[("component.page.vertical.color", "red")], [], [], false⟩

/-- A theme with one component style. -/
def styleTheme : Theme.Resolved :=
  ⟨[("component.page.vertical.color", "red")],
    [(("page", "vertical"), [("color", "component.page.vertical.color")])], [], false⟩

/-- A page under these themes depends on no variable, or on the one of its style. -/
theorem variables_of_page {d : Document} (styled : Render.styled d = [(.page, some "vertical")]) :
    Render.variables d tokenTheme = [] ∧
      "--component-page-vertical-color" ∈ Render.variables d styleTheme := by
  constructor
  · refine Render.variables_eq_nil ?_
    rw [Render.referred, styled]
    decide +kernel
  · refine Render.mem_variables ?_ ?_
    · decide +kernel
    · rw [Render.referred, styled]
      decide +kernel

/-- A theme whose token has the key of a component style is followed by one with that style. They
have the same variables, so the page is not rendered again, and its fragment lacks the variable that
now styles it. -/
theorem Pipeline.cache_shows :
    ¬ ∀ (base : Theme.Base) (size : Int) (ops : List Operation) (source : Source),
      Distinguished (Operation.documents (ops ++ [.run source])) →
      ThemesDistinguished (Operation.themes base ops) →
      let p := (start base size).steps ops
      let fresh := (start base 0).setTheme p.theme
      p.result source = fresh.result source := by
  intro every
  have first : (Event.theme
      (some "theme: \x7btokens: \x7bcomponent.page.vertical.color: red\x7d\x7d")
      "<theme>").theme? .bare = some tokenTheme := by
    decide +kernel
  have second : (Event.theme
      (some "theme: \x7bcomponents: \x7bpage: \x7bvertical: \x7bcolor: red\x7d\x7d\x7d\x7d")
      "<theme>").theme? .bare = some styleTheme := by
    decide +kernel
  have page : (Document.renderable (.text "page: \x7b\x7d")).toOption.map Render.styled =
      some [(.page, some "vertical")] := by
    decide +kernel
  cases parsed : Document.renderable (.text "page: \x7b\x7d") with
  | error fault =>
      rw [parsed] at page
      cases page
  | ok d =>
      rw [parsed] at page
      obtain ⟨none, one⟩ := variables_of_page (Option.some.inj page)
      obtain ⟨documents, themes, kept, anew⟩ :=
        Pipeline.results_of_same_variables (show (1 : Int) ≤ 32 by decide) first second parsed rfl
      have told : Distinguished [d, d] := by
        intro e member other also _
        simp only [List.mem_cons, List.not_mem_nil, or_false, or_self] at member also
        rw [member, also]
      have tellable : ThemesDistinguished [.defaults .bare [], tokenTheme, styleTheme] := by
        decide +kernel
      have same := every .bare 32 _ _ (documents ▸ told) (themes ▸ tellable)
      have found : Render.variables d tokenTheme = Render.variables d styleTheme :=
        congrArg Result.variables (kept.symm.trans (Eq.trans same anew))
      rw [none] at found
      rw [← found] at one
      cases one

end Wireframe.Preview
