import Wireframe.Preview.Pipeline
import Wireframe.Proofs.Recency

/-! # Which fragments a pipeline keeps

A pipeline is asked for the fragments of documents, and between that themes are loaded. Each
time a fragment is asked for, the document and the digest of the theme in force make a key. A
theme without an encoding has no digest, and goes by that of the theme before it. What a pipeline
keeps is known from these keys: the fragments under those that were used last
(`Wireframe.Preview.Pipeline.recent_of_requests`).
-/

namespace Wireframe.Preview

namespace Pipeline

/-- Something that is asked of a pipeline: to load a theme, from a text or from a file, or the
fragment of a document. -/
inductive Request where
  | loadTheme (content : Option String) (source : String)
  | loadThemeFile (file : Option (Theme.Content × String))
  | fragment (d : Document)

/-- A pipeline after a request. A theme that cannot be loaded leaves it as it is. -/
def serve (p : Pipeline) : Request → Pipeline
  | .loadTheme content source => (p.loadTheme content source).1
  | .loadThemeFile file => (p.loadThemeFile file).1
  | .fragment d => (p.renderCached d).2

/-- A pipeline after several requests. -/
def serveAll (p : Pipeline) (requests : List Request) : Pipeline := requests.foldl serve p

/-- The theme that a request loads, if it loads one. -/
def Request.loaded? (base : Theme.Base) : Request → Option Theme.Resolved
  | loadTheme content source => (Theme.Resolved.ofText base content source).toOption
  | loadThemeFile file => (Theme.Resolved.ofFile base file).toOption
  | fragment _ => none

/-- The theme that is named after a theme was loaded, or was not. -/
def themeAfter (theme : Theme.Resolved) (loaded : Option Theme.Resolved) : Theme.Resolved :=
  loaded.getD theme

/-- The digest that is noted after a theme was loaded, or was not. A theme without an encoding has
none, and the one before it stays. -/
def digestAfter (digest : String) (loaded : Option Theme.Resolved) : String :=
  ((loaded.filter (!·.hasHalves)).map Theme.Resolved.fingerprint).getD digest

/-- The key of a document beside the digest of a theme, with the fragment under a theme. -/
def call (d : Document) (theme : Theme.Resolved) (digest : String) :
    (String × String) × Render.Fragment :=
  ((d.fingerprint, digest), Render.fragment d theme)

/-- The keys under which some requests ask for fragments, each with the fragment that rendering
makes, where some theme is named and some digest is noted at first. -/
def calls (base : Theme.Base) (theme : Theme.Resolved) (digest : String) :
    List Request → Table (String × String) Render.Fragment
  | [] => []
  | .fragment d :: rest => call d theme digest :: calls base theme digest rest
  | r :: rest =>
    calls base (themeAfter theme (r.loaded? base)) (digestAfter digest (r.loaded? base)) rest

/-- Loading a theme changes the theme and its digest, and nothing that is kept. -/
theorem load_cases (p : Pipeline) (result : Except Theme.Breakdown Theme.Resolved) :
    let loaded := (p.takeTheme result).1
    loaded.base = p.base ∧ loaded.cache = p.cache ∧
      loaded.theme = themeAfter p.theme result.toOption ∧
      loaded.themeDigest = digestAfter p.themeDigest result.toOption := by
  cases result with
  | error cause => exact ⟨rfl, rfl, rfl, rfl⟩
  | ok theme =>
      rw [takeTheme, digestAfter, Except.toOption]
      cases halved : theme.hasHalves with
      | true =>
          rw [Option.filter_some_neg (by simpa using halved)]
          exact ⟨rfl, rfl, rfl, rfl⟩
      | false =>
          rw [Option.filter_some_pos (by simpa using halved)]
          exact ⟨rfl, rfl, rfl, rfl⟩

/-- The cache of a pipeline is used under the keys of the requests for fragments, in order, and in
no other way. -/
theorem cache_serveAll (p : Pipeline) (requests : List Request) :
    (p.serveAll requests).cache =
      p.cache.fetchAll (calls p.base p.theme p.themeDigest requests) := by
  induction requests generalizing p with
  | nil => rfl
  | cons r requests ih =>
      have served : p.serveAll (r :: requests) = (p.serve r).serveAll requests := rfl
      rw [served]
      cases r with
      | fragment d =>
          rw [serve, ih (p.renderCached d).2, renderCached]
          rfl
      | loadTheme content source =>
          obtain ⟨base, cache, theme, digest⟩ :=
            p.load_cases (Theme.Resolved.ofText p.base content source)
          rw [serve, loadTheme, ih, base, cache, theme, digest]
          rfl
      | loadThemeFile file =>
          obtain ⟨base, cache, theme, digest⟩ :=
            p.load_cases (Theme.Resolved.ofFile p.base file)
          rw [serve, loadThemeFile, ih, base, cache, theme, digest]
          rfl

/-- **The fragments that were used last.** Whatever the size of a pipeline's cache is, be it zero or
less, and whatever is asked of the pipeline: it keeps a fragment for each of the distinct keys that
were used last, as many as the size admits, in the order of their last uses. Each is the fragment
that was made at the last use of the key that did not find it among those that were used last
before. The hits are the uses that did find it. -/
theorem recent_of_requests (base : Theme.Base) (size : Int) (requests : List Request) :
    let defaults := Theme.Resolved.defaults base []
    let uses := calls base defaults defaults.fingerprint requests
    let cache := ((start base size).serveAll requests).cache
    cache.entries.keys = Cache.recent size uses.keys ∧
      (∀ key ∈ Cache.recent size uses.keys, ∃ fragment,
        cache.entries.get? key = some fragment ∧
          (Cache.insertions size uses).lastValue? key = some fragment) ∧
      cache.hits = Cache.findCount size uses.keys := by
  intro defaults uses cache
  have follows : cache.Follows size uses := by
    have used : cache = (Cache.empty size).fetchAll uses :=
      cache_serveAll (start base size) requests
    rw [used]
    exact Cache.follows_fetchAll size uses
  refine ⟨follows.keys, fun key member => ?_, follows.hits⟩
  rw [← follows.keys] at member
  cases found : cache.entries.get? key with
  | none => exact absurd member (Cache.not_mem_of_get? found)
  | some fragment => exact ⟨fragment, rfl, follows.values _ (Table.mem_of_get? found)⟩

end Pipeline

end Wireframe.Preview
