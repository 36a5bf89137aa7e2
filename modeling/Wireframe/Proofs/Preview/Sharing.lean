import Wireframe.Proofs.Document.Payload
import Wireframe.Proofs.Preview.Recency
import Wireframe.Proofs.Text.Quoted
import Wireframe.Proofs.Text.Utf8

/-! # Documents that share a fragment

A document is known by its payload, and a text by its digest unless two texts have the same
hash. So whatever a pipeline has been asked for, it answers for a document with a fragment of
this document, or with one of another whose payload has the same hash
(`Wireframe.Preview.Pipeline.shares_by_collision`).
-/

namespace Wireframe

/-! ## Digests -/

theorem Text.length_hexText (width n : Nat) : (hexText width n).length = width := by
  induction width generalizing n with
  | zero => rfl
  | succ width ih => rw [hexText, List.length_append, ih, List.length_singleton]

namespace Digest.Sha256

open Text (hexText)
open Text.Utf8 (encode)

/-- Two different byte strings with the same hash. -/
def Collision (a b : List UInt8) : Prop := a ≠ b ∧ hash a = hash b

/-- The digits of a word determine it. -/
theorem hexText_inj {v w : UInt32} (same : hexText 8 v.toNat = hexText 8 w.toNat) : v = w := by
  have number (w : UInt32) : Text.numberOfDigits 16 (hexText 8 w.toNat) = w.toNat :=
    (Text.numberOfDigits_hexText 8 _).trans (Nat.mod_eq_of_lt w.toNat_lt)
  rw [← UInt32.toNat_inj, ← number v, ← number w, same]

theorem flatMap_hexText_inj {vs ws : List UInt32}
    (same : (vs.flatMap fun v => hexText 8 v.toNat) = ws.flatMap fun w => hexText 8 w.toNat) :
    vs = ws := by
  have long (w : UInt32) (rest : List Char) : hexText 8 w.toNat ++ rest ≠ [] := fun none => by
    have length := congrArg List.length (List.append_eq_nil_iff.mp none).1
    rw [Text.length_hexText] at length
    cases length
  induction vs generalizing ws with
  | nil =>
      cases ws with
      | nil => rfl
      | cons w ws => exact absurd same.symm (long w _)
  | cons v vs ih =>
      cases ws with
      | nil => exact absurd same (long v _)
      | cons w ws =>
          rw [List.flatMap_cons, List.flatMap_cons] at same
          obtain ⟨first, others⟩ := List.append_inj same
            ((Text.length_hexText 8 _).trans (Text.length_hexText 8 _).symm)
          rw [hexText_inj first, ih others]

theorem encode_inj {s t : String} (same : encode s = encode t) : s = t := by
  have decoded := congrArg Text.Utf8.decode same
  rw [Text.Utf8.decode_encode, Text.Utf8.decode_encode] at decoded
  exact String.toList_injective (Except.ok.inj decoded)

/-- Texts with the same digest are the same, or their bytes are a collision. -/
theorem eq_or_collision {s t : String} (same : hexDigest s = hexDigest t) :
    s = t ∨ Collision (encode s) (encode t) := by
  by_cases equal : s = t
  · exact .inl equal
  · refine .inr ⟨fun bytes => equal (encode_inj bytes), ?_⟩
    exact flatMap_hexText_inj (String.ofList_injective same)

end Digest.Sha256

/-- Documents with the same fingerprint are the same, or their payloads are a collision. -/
theorem Document.eq_or_collision {d e : Document} (same : d.fingerprint = e.fingerprint) :
    d = e ∨ Digest.Sha256.Collision (Text.Utf8.encode d.payload) (Text.Utf8.encode e.payload) :=
  (Digest.Sha256.eq_or_collision same).imp_left payload_inj

/-! ## Fragments that are kept -/

namespace Preview.Pipeline

/-- The digest that a pipeline has noted is that of its theme, if the theme has an encoding. -/
def Noted (p : Pipeline) : Prop :=
  p.theme.hasHalves = false → p.themeDigest = p.theme.fingerprint

/-- What is kept under a key is the fragment of a document that was asked for, under some theme, and
the two make up the key, if the theme has an encoding. -/
def Asked (requests : List Request) (key : String × String) (fragment : Render.Fragment) : Prop :=
  ∃ d theme, .fragment d ∈ requests ∧ (key, fragment) = call d theme key.2 ∧
    (theme.hasHalves = false → key.2 = theme.fingerprint)

variable {p : Pipeline} {asked : List Request}

/-- The fragment that is given for a document was made for the key of this document and of the theme
in force. -/
theorem asked_renderCached (noted : p.Noted) (holds : p.cache.Holds (Asked asked)) {d : Document}
    (member : .fragment d ∈ asked) :
    Asked asked (d.fingerprint, p.themeDigest) (p.renderCached d).1 ∧
      (p.renderCached d).2.cache.Holds (Asked asked) := by
  have made : Asked asked (d.fingerprint, p.themeDigest) (Render.fragment d p.theme) :=
    ⟨d, p.theme, member, rfl, noted⟩
  exact Cache.fetch_holds (fun _ => Render.fragment d p.theme) holds made

theorem noted_takeTheme (noted : p.Noted) (result : Except Theme.Breakdown Theme.Resolved) :
    (p.takeTheme result).1.Noted := by
  cases result with
  | error cause => exact noted
  | ok theme =>
      rw [takeTheme]
      split
      · rename_i halved
        intro whole
        cases halved.symm.trans whole
      · exact fun _ => rfl

theorem asked_serve (noted : p.Noted) (holds : p.cache.Holds (Asked asked)) {r : Request}
    (member : r ∈ asked) : (p.serve r).Noted ∧ (p.serve r).cache.Holds (Asked asked) := by
  cases r with
  | fragment d => exact ⟨noted, (asked_renderCached noted holds member).2⟩
  | loadTheme content source =>
      obtain ⟨-, cache, -⟩ := p.load_cases (Theme.Resolved.ofText p.base content source)
      rw [serve, loadTheme]
      exact ⟨noted_takeTheme noted _, cache ▸ holds⟩
  | loadThemeFile file =>
      obtain ⟨-, cache, -⟩ := p.load_cases (Theme.Resolved.ofFile p.base file)
      rw [serve, loadThemeFile]
      exact ⟨noted_takeTheme noted _, cache ▸ holds⟩

theorem asked_serveAll (noted : p.Noted) (holds : p.cache.Holds (Asked asked))
    {requests : List Request} (members : ∀ r ∈ requests, r ∈ asked) :
    (p.serveAll requests).Noted ∧ (p.serveAll requests).cache.Holds (Asked asked) := by
  induction requests generalizing p with
  | nil => exact ⟨noted, holds⟩
  | cons r requests ih =>
      obtain ⟨first, others⟩ := List.forall_mem_cons.mp members
      obtain ⟨still, kept⟩ := asked_serve noted holds first
      exact ih still kept others

/-- **Documents share a fragment only by a collision.** The payload of a document determines it, and
its fingerprint does up to a collision of the hash. Whatever has been asked of a pipeline, the
fragment it gives for a document is one of this document, or of another one that was asked for,
whose payload has the same hash. It was made under a theme with the digest of the theme in force, as
far as the two have encodings, and so digests. -/
theorem shares_by_collision :
    (∀ d e : Document, d.payload = e.payload → d = e) ∧
    (∀ d e : Document, d.fingerprint = e.fingerprint →
      d = e ∨ Digest.Sha256.Collision (Text.Utf8.encode d.payload) (Text.Utf8.encode e.payload)) ∧
    ∀ (base : Theme.Base) (size : Int) (requests : List Request) (d : Document),
      let p := (start base size).serveAll requests
      ∃ e theme, (p.renderCached d).1 = Render.fragment e theme ∧
        (theme.hasHalves = false → p.theme.hasHalves = false →
          theme.fingerprint = p.theme.fingerprint) ∧
        (e = d ∨ .fragment e ∈ requests ∧
          Digest.Sha256.Collision (Text.Utf8.encode e.payload) (Text.Utf8.encode d.payload)) := by
  refine ⟨fun _ _ => Document.payload_inj, fun _ _ => Document.eq_or_collision, ?_⟩
  intro base size requests d p
  -- the invariant counts the document itself as asked for, since its fragment may be made now
  let asked := Request.fragment d :: requests
  have empty : (start base size).cache.Holds (Asked asked) := Cache.holds_empty size _
  obtain ⟨noted, holds⟩ := asked_serveAll (p := start base size) (fun _ => rfl) empty
    fun _ => List.mem_cons_of_mem (Request.fragment d)
  obtain ⟨⟨e, theme, member, kept, digest⟩, _⟩ :=
    asked_renderCached noted holds List.mem_cons_self
  obtain ⟨key, fragment⟩ := Prod.mk.inj kept
  have document := congrArg Prod.fst key
  refine ⟨e, theme, fragment, fun whole named => (digest whole).symm.trans (noted named), ?_⟩
  rcases List.mem_cons.mp member with same | before
  · exact .inl (Request.fragment.inj same)
  · exact (Document.eq_or_collision document.symm).imp_right fun collision => ⟨before, collision⟩

end Preview.Pipeline

end Wireframe
