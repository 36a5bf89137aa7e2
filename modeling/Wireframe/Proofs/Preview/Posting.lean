import Wireframe.Proofs.Number.Reading
import Wireframe.Proofs.Preview.InForce

/-! # Posted messages

A request that posts a message leaves the session as it is, whatever its headers and its body
are. The length that the request announces decides first: without one there is nothing to read,
and with one that is too large nothing is read. The bytes read are a message or they are not.
Each of these cases has one answer, with two exceptions: a message that asks for an export is
not answered if the file cannot be written, and neither is one where what is to be told to the
surfaces has no encoding (`Wireframe.Preview.Server.answer_of_post`).

That there is an export in the first place is because fragments are the markup of pages, also
those that come from the cache.
-/

namespace Wireframe.Preview

/-! ## Fragments are pages -/

/-- A fragment that is the markup of a page. -/
def IsPage (fragment : Render.Fragment) : Prop := ∃ p, fragment.markup = (Render.page p).write

theorem Pipeline.isPage_renderDocument {p : Pipeline} (d : Document)
    (cached : p.cache.Holds fun _ => IsPage) :
    IsPage (p.renderDocument d).1.fragment ∧ (p.renderDocument d).2.cache.Holds fun _ => IsPage :=
  Cache.fetch_holds (fun _ => Render.fragment d p.theme) cached ⟨d.page, rfl⟩

namespace Session

variable {s t : Session} {e : Event} {sent : List HostMessage}

/-- A session whose fragments are the markup of pages, the good one and those in the cache. -/
structure ShowsPages (s : Session) : Prop where
  cached : s.pipeline.cache.Holds fun _ => IsPage
  good : ∀ r ∈ s.slot.good, IsPage r.fragment

theorem Change.showsPages (change : Change s e t sent) (shows : s.ShowsPages) : t.ShowsPages := by
  cases change with
  | rendered parsed =>
      rename_i source d
      obtain ⟨page, cached⟩ := Pipeline.isPage_renderDocument d shows.cached
      refine ⟨cached, ?_⟩
      rintro r ⟨⟩
      exact page
  | failed failure unparsed => exact ⟨shows.cached, shows.good⟩
  | themed resolved missing => exact ⟨shows.cached, shows.good⟩
  | rerendered resolved present =>
      rename_i theme good
      have themed : (s.pipeline.setTheme theme).cache.Holds fun _ => IsPage := shows.cached
      obtain ⟨page, cached⟩ := Pipeline.isPage_renderDocument good.document themed
      refine ⟨cached, ?_⟩
      rintro r ⟨⟩
      exact page
  | halfway loaded halved => exact ⟨shows.cached, shows.good⟩
  | answered => exact shows
  | refused text refuses => exact shows
  | opened => exact shows
  | still unparsed unloaded => exact shows

/-- Whatever has happened to a session, its fragments are the markup of pages. -/
theorem Reached.showsPages {base : Theme.Base} {docs : List Document}
    {themes : List Theme.Resolved} (reached : s.Reached base docs themes) : s.ShowsPages :=
  reached.holds (fun size => ⟨Cache.holds_empty size _, nofun⟩)
    (fun _ _ _ _ shows => ⟨shows.cached, nofun⟩)
    fun s e _ _ shows => (s.change_step e).showsPages shows

/-- A message is handled, and the session stays as it is. -/
theorem ShowsPages.handle (shows : s.ShowsPages) (m : SurfaceMessage) :
    ∃ reaction, s.handle m = .ok reaction ∧ reaction.session = s := by
  cases m with
  | ready => exact ⟨_, rfl, rfl⟩
  | exportRequest =>
      rw [Session.handle, exportRequested]
      cases s.exportTarget with
      | none => exact ⟨_, rfl, rfl⟩
      | some target =>
          rw [build, Slot.exportText]
          cases present : s.slot.good with
          | none => exact ⟨_, rfl, rfl⟩
          | some good =>
              obtain ⟨p, markup⟩ := shows.good good present
              obtain ⟨text, built⟩ := build_page p s.exportFormat good.styleSheet
                (titleOf good.document s.exportTitle)
              dsimp only
              rw [markup, built]
              exact ⟨_, rfl, rfl⟩

end Session

namespace Server

/-! ## Announced lengths -/

/-- The text with which a request announces the length of its body; an empty one announces
nothing. -/
def announcement (request : Request) : List Char :=
  ((header? request "Content-Length").getD "").toList

/-- The length that a text announces: without a text it is zero; a text announces the whole number
that it denotes, if it has no more digits than are read. -/
inductive Announces : List Char → Int → Prop where
  | nothing : Announces [] 0
  | number {text : List Char} {length : Int}
    (few : Number.countDigits text ≤ Number.mostDigits) (denotes : Number.Denotes text length) :
    Announces text length

theorem ne_nil_of_denotes {text : List Char} {n : Int} (denotes : Number.Denotes text n) :
    text ≠ [] := by
  rintro rfl
  have read := Number.readInt?_eq_some_iff.mpr denotes
  cases read

/-- The length that is found is the one that is announced. -/
theorem announcedLength?_eq_some_iff {request : Request} {length : Int} :
    announcedLength? request = some length ↔ Announces (announcement request) length := by
  have empty : Announces [] length ↔ length = 0 :=
    ⟨fun
      | .nothing => rfl
      | .number _ denotes => absurd rfl (ne_nil_of_denotes denotes),
      fun zero => zero ▸ .nothing⟩
  rw [announcedLength?, announcement]
  cases header? request "Content-Length" with
  | none =>
      rw [Option.getD_none, String.toList_empty, empty]
      exact ⟨fun found => (Option.some.inj found).symm, fun zero => congrArg some zero.symm⟩
  | some text =>
      rw [Option.getD_some]
      by_cases blank : text = ""
      · subst blank
        rw [String.toList_empty, empty]
        exact ⟨fun found => (Option.some.inj found).symm, fun zero => congrArg some zero.symm⟩
      · have kept : (some text).filter (· != "") = some text := by simp [blank]
        have filled : text.toList ≠ [] := by simpa using blank
        rw [kept]
        dsimp only
        split_ifs with many
        · refine ⟨nofun, ?_⟩
          generalize text.toList = chars at filled many
          rintro (_ | ⟨few, denotes⟩)
          · exact absurd rfl filled
          · exact absurd many (Nat.not_lt.mpr few)
        · rw [Number.readInt?_eq_some_iff]
          refine ⟨.number (Nat.le_of_not_lt many), ?_⟩
          generalize text.toList = chars at filled
          rintro (_ | ⟨few, denotes⟩)
          · exact absurd rfl filled
          · exact denotes

/-! ## Answers -/

/-- What a posted message is answered. -/
inductive Answered (s : Session) (files : Files) (request : Request) : Answer → Prop where
  /-- The header announces no length. -/
  | unannounced (unknown : ∀ length : Nat, ¬ Announces (announcement request) length) :
    Answered s files request ⟨refused "invalid Content-Length", [], files⟩
  /-- The message is too long to be taken. -/
  | tooLong {length : Nat} (announced : Announces (announcement request) length)
    (large : 65536 < length) : Answered s files request ⟨.refusal 413, [], files⟩
  /-- The bytes of the length announced are no message of a surface. -/
  | flawed {length : Nat} {fault : MessageFault}
    (announced : Announces (announcement request) length) (small : length ≤ 65536)
    (unread : decodeSurfaceMessage (request.body.take length) = .error fault) :
    Answered s files request ⟨refused fault.message, [], files⟩
  /-- The bytes are a message, which is handled; what it yields is written. -/
  | taken {length : Nat} {m : SurfaceMessage} {reaction : Reaction (Option Artefact)}
    {after : Files} (announced : Announces (announcement request) length) (small : length ≤ 65536)
    (read : decodeSurfaceMessage (request.body.take length) = .ok m)
    (handled : s.handle m = .ok reaction) (kept : reaction.session = s)
    (written : deliver files reaction.result = .ok after) :
    Answered s files request ⟨taken, reaction.sent, after⟩

/-- What is wrong where a posted message is taken and not answered. -/
inductive Unanswered (s : Session) (files : Files) (request : Request) : Fault → Prop where
  /-- The message asks for an export, for which there is a text, but its file cannot be written. -/
  | unwritten {length : Nat} {artefact : Artefact} {refusal : Files.Refusal}
    (announced : Announces (announcement request) length) (small : length ≤ 65536)
    (read : decodeSurfaceMessage (request.body.take length) = .ok .exportRequest)
    (handled : s.handle .exportRequest = .ok ⟨s, [], some artefact⟩)
    (refused : files.store artefact.target (Text.Utf8.encode artefact.text) = .error refusal) :
    Unanswered s files request (.files refusal)
  /-- What is told last, the failure after the good document, has no encoding. -/
  | untold {length : Nat} {m : SurfaceMessage} {reaction : Reaction (Option Artefact)}
    {failure : SourceFailure} (announced : Announces (announcement request) length)
    (small : length ≤ 65536)
    (read : decodeSurfaceMessage (request.body.take length) = .ok m)
    (handled : s.handle m = .ok reaction) (kept : reaction.session = s)
    (failed : s.slot.failed = some failure) (unwritable : failure.isWritable = false) :
    Unanswered s files request (.unsent reaction.sent.dropLast)

variable {s : Session} {files : Files} {request : Request}

/-- A reaction that cannot be delivered is an export. -/
theorem exportRequest_of_undelivered {m : SurfaceMessage} {reaction : Reaction (Option Artefact)}
    {refusal : Files.Refusal} (handled : s.handle m = .ok reaction)
    (undelivered : deliver files reaction.result = .error refusal) :
    m = .exportRequest ∧ ∃ artefact, reaction = ⟨s, [], some artefact⟩ ∧
      files.store artefact.target (Text.Utf8.encode artefact.text) = .error refusal := by
  cases m with
  | ready =>
      cases handled
      cases undelivered
  | exportRequest =>
      refine ⟨rfl, ?_⟩
      rw [Session.handle, Session.exportRequested] at handled
      cases target : s.exportTarget with
      | none =>
          rw [target] at handled
          cases handled
          cases undelivered
      | some path =>
          rw [target] at handled
          dsimp only at handled
          split at handled
          · cases handled
            exact ⟨_, rfl, undelivered⟩
          · cases handled
            cases undelivered
          · cases handled

/-- Where answers have no encoding, it is the last failure that has none. -/
theorem failed_of_canAnswer {m : SurfaceMessage} (silent : s.canAnswer m = false) :
    ∃ failure, s.slot.failed = some failure ∧ failure.isWritable = false := by
  have untold : s.canTell = false := by
    cases m with
    | ready => exact silent
    | exportRequest => exact (Bool.or_eq_false_iff.mp silent).2
  rw [Session.canTell] at untold
  cases failed : s.slot.failed with
  | none =>
      rw [failed] at untold
      cases untold
  | some failure =>
      rw [failed] at untold
      exact ⟨failure, rfl, untold⟩

/-- A message of the length announced is answered once it has been read, or it is taken and there is
no answer. -/
theorem post_of_announced (shows : s.ShowsPages) {length : Nat}
    (announced : Announces (announcement request) length) (small : length ≤ 65536) :
    (∃ answer, post s files request = .ok answer ∧ Answered s files request answer) ∨
      ∃ fault, post s files request = .error fault ∧ Unanswered s files request fault := by
  have found := announcedLength?_eq_some_iff.mpr announced
  have positive : ¬ (length : Int) < 0 := by omega
  have within : ¬ messageLimit < (length : Int) := by
    rw [messageLimit]
    omega
  rw [post, found]
  dsimp only
  rw [if_neg positive, if_neg within, Int.toNat_natCast]
  cases decoded : decodeSurfaceMessage (request.body.take length) with
  | error fault => exact .inl ⟨_, rfl, .flawed announced small decoded⟩
  | ok m =>
      obtain ⟨reaction, handled, kept⟩ := shows.handle m
      dsimp only
      rw [handled]
      dsimp only
      cases told : s.canAnswer m with
      | false =>
          obtain ⟨failure, failed, unwritable⟩ := failed_of_canAnswer told
          exact .inr ⟨_, rfl, .untold announced small decoded handled kept failed unwritable⟩
      | true =>
          rw [Bool.not_true, if_neg Bool.false_ne_true]
          cases delivered : deliver files reaction.result with
          | ok after =>
              exact .inl ⟨_, rfl, .taken announced small decoded handled kept delivered⟩
          | error refusal =>
              obtain ⟨rfl, artefact, rfl, refused⟩ := exportRequest_of_undelivered handled delivered
              exact .inr ⟨_, rfl, .unwritten announced small decoded handled refused⟩

/-- **What a posted message is answered.** Whatever the headers and the body of a request are that
posts a message to a session that can be reached, there is one answer: it announces no length, or
one that is too large, or its bytes are no message, or they are a message and it is taken. Two kinds
of messages are taken and not answered at all: one that asks for an export whose file cannot be
written, and one where the surfaces are to be told of a failure that has no encoding. A length that
is announced is the only one, and no message changes the session. -/
theorem answer_of_post {base : Theme.Base} {docs : List Document} {themes : List Theme.Resolved}
    (reached : s.Reached base docs themes) (files : Files) {request : Request}
    (posted : request.method = "POST") (addressed : route request.path = "/message") :
    ((∃ answer, respond s files request = .ok answer ∧ Answered s files request answer) ∨
        ∃ fault, respond s files request = .error fault ∧ Unanswered s files request fault) ∧
      (∀ length other, Announces (announcement request) length →
        Announces (announcement request) other → length = other) ∧
      ∀ bytes reaction, s.receive bytes = .ok reaction → reaction.session = s := by
  have shows := reached.showsPages
  have responded : respond s files request = post s files request := by
    rw [respond, posted, addressed]
    rfl
  refine ⟨?_, ?_, ?_⟩
  · rw [responded]
    by_cases announced : ∃ length : Nat, Announces (announcement request) length
    · obtain ⟨length, announced⟩ := announced
      by_cases small : length ≤ 65536
      · exact post_of_announced shows announced small
      · refine .inl ⟨_, ?_, .tooLong announced (Nat.lt_of_not_le small)⟩
        have large : messageLimit < (length : Int) := by
          rw [messageLimit]
          omega
        rw [post, announcedLength?_eq_some_iff.mpr announced]
        dsimp only
        rw [if_neg (by omega), if_pos large]
    · refine .inl ⟨_, ?_, .unannounced (not_exists.mp announced)⟩
      rw [post]
      cases found : announcedLength? request with
      | none => rfl
      | some length =>
          have negative : length < 0 := by
            by_contra positive
            obtain ⟨n, rfl⟩ := Int.eq_ofNat_of_zero_le (Int.not_lt.mp positive)
            exact announced ⟨n, announcedLength?_eq_some_iff.mp found⟩
          dsimp only
          rw [if_pos negative]
  · intro length other first second
    rw [← announcedLength?_eq_some_iff] at first second
    exact Option.some.inj (first.symm.trans second)
  · intro bytes reaction received
    rw [Session.receive] at received
    cases decoded : decodeSurfaceMessage bytes with
    | error fault =>
        rw [decoded] at received
        cases received
    | ok m =>
        obtain ⟨answer, handled, kept⟩ := shows.handle m
        rw [decoded] at received
        dsimp only at received
        rw [handled] at received
        cases received
        exact kept

/-- A session that has rendered a page and exports it to a file of the home. -/
def pageToExport : Session :=
  (Session.start ((Session.start (Pipeline.start .bare 1) none Export.defaultTitle
    .html).run []).pipeline (some ⟨"", ["a.html"]⟩) "Preview" .html).run
      [.document (.text "page: \x7b\x7d")]

theorem reached_pageToExport :
    ∃ docs themes, pageToExport.Reached .bare docs themes :=
  ⟨_, _, .after 1 [] [.document (.text "page: \x7b\x7d")] _ _ _⟩

/-- A request for an export. The length that it announces has blanks and a line between its digits,
and the body goes on after it. -/
def exportPosted : Request :=
  ⟨"POST", "//message?x", [("content-length", " 1_8")],
    Text.Utf8.encode "\x7b\"type\": \"export\"\x7d..."⟩

/-- The export that a surface asks for can be written: the message is taken, and the file is there
after it. -/
theorem answer_of_post_export :
    (∃ docs themes, pageToExport.Reached .bare docs themes) ∧
      exportPosted.method = "POST" ∧ route exportPosted.path = "/message" ∧
      ((∃ answer, respond pageToExport ⟨⟨"/", []⟩, []⟩ exportPosted = .ok answer ∧
          Answered pageToExport ⟨⟨"/", []⟩, []⟩ exportPosted answer) ∨
        ∃ fault, respond pageToExport ⟨⟨"/", []⟩, []⟩ exportPosted = .error fault ∧
          Unanswered pageToExport ⟨⟨"/", []⟩, []⟩ exportPosted fault) ∧
      (respond pageToExport ⟨⟨"/", []⟩, []⟩ exportPosted).map
        (fun a => (a.response.status, a.files.listing)) = .ok (200, ["a.html"]) := by
  obtain ⟨docs, themes, reached⟩ := reached_pageToExport
  have addressed : route exportPosted.path = "/message" := by decide +kernel
  refine ⟨⟨docs, themes, reached⟩, rfl, addressed, ?_, ?_⟩
  · exact (answer_of_post reached ⟨⟨"/", []⟩, []⟩ rfl addressed).1
  · decide +kernel

/-- A directory stands where the export should go: the message is taken, and it is not answered. -/
theorem export_unanswered :
    ¬ ∀ (s : Session) (base : Theme.Base) (docs : List Document) (themes : List Theme.Resolved)
      (files : Files) (request : Request), s.Reached base docs themes → request.method = "POST" →
        route request.path = "/message" → ∃ answer, respond s files request = .ok answer := by
  intro every
  obtain ⟨docs, themes, reached⟩ := reached_pageToExport
  let files : Files := ⟨⟨"/", []⟩, [(["a.html"], .directory)]⟩
  have addressed : route exportPosted.path = "/message" := by decide +kernel
  obtain ⟨answer, responded⟩ := every _ _ docs themes files exportPosted reached rfl addressed
  have silent : (respond pageToExport files exportPosted).toOption.isNone := by decide +kernel
  rw [responded] at silent
  cases silent

/-- A length may be written with a sign: a text that is no string of digits need not be refused. -/
example :
    let s := Session.start (Pipeline.start .bare 1) none Export.defaultTitle .html
    let request : Request := ⟨"POST", "/message", [("Content-Length", "+17")],
      Text.Utf8.encode "\x7b\"type\": \"ready\"\x7d"⟩
    announcement request ≠ [] ∧ (announcement request).all Text.isAsciiDigit = false ∧
      (respond s ⟨⟨"/", []⟩, []⟩ request).map (·.response.status) = .ok 200 := by
  decide +kernel

end Server

end Wireframe.Preview
