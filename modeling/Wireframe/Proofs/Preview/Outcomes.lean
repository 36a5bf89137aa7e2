import Wireframe.Preview.Session
import Wireframe.Proofs.Document.Places
import Wireframe.Proofs.Yaml.Faults

/-! # Every source has an outcome

A pipeline turns every source into an outcome that says what the source is: a document that
is rendered, a text that is malformed, or a mapping that breaks the rules for components. A
session records the outcome and announces it by one message
(`Wireframe.Preview.Pipeline.outcome_of_run`). There are three exceptions, in which the
pipeline breaks off and nothing is recorded or announced: a scalar that is no value of its type
is not told from a text that cannot be read at all, a number of too many digits cannot be
written where an id or a message needs it, and a document has no digest where half of a
surrogate pair is left in one of its texts.
-/

namespace Wireframe

/-- The text of a source, if it has one: bytes have to be UTF-8. -/
def Source.text? : Source → Option String
  | .text s => some s
  | .bytes b => (Text.Utf8.decode b).toOption.map String.ofList

/-- A source whose text has a fault that is no broken rule of YAML. -/
def Source.Flawed (source : Source) (fault : Yaml.ScalarFault) : Prop :=
  ∃ text, source.text? = some text ∧ Yaml.Flawed text fault

/-- What a source has about it when rendering breaks off. -/
inductive Source.Breaks (source : Source) : Yaml.ScalarFault → Prop where
  | flawed {fault : Yaml.ScalarFault} (flawed : source.Flawed fault) : Breaks source fault
  | overlong {v : Value} (value : source.value? = some v) (held : v.isOverlong = true) :
    Breaks source .overlong
  | halved {v : Value} {d : Document} (value : source.value? = some v)
    (made : Document.ofValue v = .ok d) (held : Document.hasHalves v = true) :
    Breaks source .halved
  | tooDeep {v : Value} {d : Document} (value : source.value? = some v)
    (made : Document.ofValue v = .ok d) (deep : d.isTooDeep = true) : Breaks source .tooDeep

namespace Document

/-! ## Reading to render -/

/-- A document that can be rendered is the one that the source holds. -/
theorem ofSource_of_renderable {source : Source} {d : Document}
    (read : renderable source = .ok d) : ofSource source = .ok d := by
  rw [renderable] at read
  obtain ⟨v, loaded, made⟩ := ok_of_bind read
  obtain ⟨also, made, whole⟩ := ok_of_bind made
  rw [ofSource, loaded]
  split at whole
  · cases whole
  · cases whole
    exact made

/-- What keeps a document from being rendered is what is wrong with the source, or that the content
of the document cannot be written. -/
theorem ofSource_of_renderable_error {source : Source} {fault : Fault}
    (failed : renderable source = .error fault) :
    ofSource source = .error fault ∨ ∃ cause v d, fault = .scalar cause ∧
      source.value? = some v ∧ ofValue v = .ok d ∧ unwritten? v d = some cause := by
  rw [renderable] at failed
  rw [ofSource]
  cases loaded : source.load with
  | error other =>
      rw [loaded] at failed
      exact .inl failed
  | ok v =>
      rw [loaded] at failed
      change (ofValue v >>= _) = _ at failed
      cases made : ofValue v with
      | error other =>
          rw [made] at failed
          cases failed
          exact .inl made
      | ok d =>
          rw [made] at failed
          dsimp only [bind, Except.bind] at failed
          split at failed
          · rename_i cause found
            cases failed
            exact .inr ⟨cause, v, d, rfl, by rw [Source.value?, loaded]; rfl, made, found⟩
          · cases failed

/-- A content that cannot be written holds halves of surrogate pairs or is nested too deeply. -/
theorem breaks_of_unwritten {source : Source} {v : Value} {d : Document}
    {cause : Yaml.ScalarFault} (value : source.value? = some v) (made : ofValue v = .ok d)
    (found : unwritten? v d = some cause) : source.Breaks cause := by
  rw [unwritten?] at found
  split at found
  · cases found
    exact .halved value made ‹_›
  · split at found
    · cases found
      exact .tooDeep value made ‹_›
    · cases found

/-- A scalar that is at fault in a value is a number that cannot be written. -/
theorem overlong_of_ofValue {v : Value} {fault : Yaml.ScalarFault}
    (failed : ofValue v = .error (.scalar fault)) :
    fault = .overlong ∧ v.isOverlong = true := by
  cases v with
  | map entries =>
      obtain ⟨broken, same⟩ | ⟨same, held⟩ := fault_of_build failed
      · cases same
      · cases same
        exact ⟨rfl, held⟩
  | _ => cases failed

theorem flawed_of_load {source : Source} {fault : Yaml.ScalarFault}
    (failed : source.load = .error (.scalar fault)) : source.Flawed fault := by
  have flawed {s : String} (failed : (Yaml.load s).mapError Fault.ofYaml = .error (.scalar fault)) :
      Yaml.Flawed s fault := by
    cases loaded : Yaml.load s with
    | ok v =>
        rw [loaded] at failed
        cases failed
    | error e =>
        rw [loaded] at failed
        cases e with
        | scalar other =>
            cases failed
            exact Yaml.flawed_of_load loaded
        | _ => cases failed
  cases source with
  | text s => exact ⟨s, rfl, flawed failed⟩
  | bytes b =>
      rw [Source.load] at failed
      split at failed
      · rename_i chars decoded
        exact ⟨String.ofList chars, by rw [Source.text?, decoded]; rfl, flawed failed⟩
      · cases failed

/-- What keeps a source from being rendered, but is no failure of the source. -/
theorem breaks_of_renderable {source : Source} {fault : Yaml.ScalarFault}
    (failed : renderable source = .error (.scalar fault)) : source.Breaks fault := by
  obtain same | ⟨cause, v, d, same, value, made, found⟩ := ofSource_of_renderable_error failed
  · cases loaded : source.load with
    | error other =>
        rw [ofSource, loaded] at same
        cases same
        exact .flawed (flawed_of_load loaded)
    | ok v =>
        rw [ofSource, loaded] at same
        obtain ⟨rfl, held⟩ := overlong_of_ofValue same
        exact .overlong (by rw [Source.value?, loaded]; rfl) held
  · cases same
    exact breaks_of_unwritten value made found

end Document

namespace Preview

/-- An outcome that says of a source what it is, under a style sheet. -/
inductive Outcome.Tells (source : Source) (styleSheet : String) : Outcome → Prop where
  | rendered {r : Rendered} (parsed : Document.ofSource source = .ok r.document)
    (sheet : r.styleSheet = styleSheet) : Tells source styleSheet (.rendered r)
  | malformed {m : Document.Malformed}
    (unparsed : Document.ofSource source = .error (.malformed m)) :
    Tells source styleSheet (.failed (.malformed m))
  | schema {fault : Document.SchemaFault}
    (unparsed : Document.ofSource source = .error (.schema fault)) :
    Tells source styleSheet (.failed (.schema fault))

/-- **Sources have outcomes.** A pipeline gives every source an outcome that says what the source
is: the document it holds, or what is malformed in it, or the rule for components it breaks. A
session with the pipeline records the outcome and announces it by exactly one message. Or the
source has a fault that is no broken rule of YAML, holds a number that cannot be written, or a
document with half of a surrogate pair or nested too deeply, and both break off with that. -/
theorem Pipeline.outcome_of_run (p : Pipeline) (source : Source) :
    (∃ outcome q, p.run source = .ok (outcome, q) ∧ outcome.Tells source p.styleSheet ∧
      ∀ s : Session, s.pipeline = p → s.documentChanged source =
        .ok ⟨{ s with pipeline := q, slot := s.slot.record outcome.toSum },
          [outcome.toMessage], outcome⟩) ∨
    ∃ fault, p.run source = .error fault ∧ source.Breaks fault ∧
      ∀ s : Session, s.pipeline = p → s.documentChanged source = .error fault := by
  have announced : ∀ outcome q, p.run source = .ok (outcome, q) → ∀ s : Session, s.pipeline = p →
      s.documentChanged source = .ok ⟨{ s with pipeline := q, slot := s.slot.record outcome.toSum },
        [outcome.toMessage], outcome⟩ := by
    rintro outcome q run s rfl
    rw [Session.documentChanged, run]
    rfl
  cases read : Document.renderable source with
  | ok d =>
      have run : p.run source =
          .ok (.rendered (p.renderDocument d).1, (p.renderDocument d).2) := by
        rw [Pipeline.run, read]
      exact .inl ⟨_, _, run, .rendered (Document.ofSource_of_renderable read) rfl,
        announced _ _ run⟩
  | error fault =>
      have same := Document.ofSource_of_renderable_error read
      cases fault with
      | malformed m =>
          have run : p.run source = .ok (.failed (.malformed m), p) := by
            rw [Pipeline.run, read]
          exact .inl ⟨_, _, run, .malformed (same.resolve_right (by rintro ⟨_, _, _, ⟨⟩, -⟩)),
            announced _ _ run⟩
      | schema fault =>
          have run : p.run source = .ok (.failed (.schema fault), p) := by
            rw [Pipeline.run, read]
          exact .inl ⟨_, _, run, .schema (same.resolve_right (by rintro ⟨_, _, _, ⟨⟩, -⟩)),
            announced _ _ run⟩
      | scalar fault =>
          have run : p.run source = .error fault := by
            rw [Pipeline.run, read]
          refine .inr ⟨fault, run, Document.breaks_of_renderable read, ?_⟩
          rintro s rfl
          rw [Session.documentChanged, run]
          rfl

/-- The day of a document's id is not in the calendar: the document has no outcome. -/
theorem Pipeline.no_outcome_of_date :
    ¬ ∀ (p : Pipeline) (source : Source), ∃ outcome q, p.run source = .ok (outcome, q) := by
  intro every
  obtain ⟨outcome, q, run⟩ :=
    every (Pipeline.start .builtin 32) (.text "page: \x7bid: 2024-13-01\x7d")
  have breaks : ((Pipeline.start .builtin 32).run
      (.text "page: \x7bid: 2024-13-01\x7d")).toOption.isNone := by
    decide +kernel
  rw [run] at breaks
  cases breaks

end Preview

end Wireframe
