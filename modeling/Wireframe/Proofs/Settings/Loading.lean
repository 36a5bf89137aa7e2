import Mathlib.Data.List.TakeWhile
import Wireframe.Proofs.Named
import Wireframe.Proofs.Number.NoNumber
import Wireframe.Proofs.Toml.Overlong
import Wireframe.Settings.Load

/-! # What comes of loading settings

Loading gives settings that agree with the file if nothing is wrong with it, and else tells what
is. A key that the file sets has the value that the file gives it, and any other key has its
default. The numbers lie within their bounds, except that nothing refuses a result that is no
number where a file says one. Only a whole number that is too long breaks loading off in another
way (`Wireframe.Settings.outcome_of_load`).
-/

namespace Wireframe

instance : LawfulNamed Export.Format := ⟨fun a => by cases a <;> decide, by decide⟩

namespace Settings

/-! ## What fields accept -/

namespace Field

variable {v : Value}

theorem text_eq_ok_iff {s : String} : text v = .ok s ↔ v = .text s := by
  cases v <;> simp [text]

theorem wholeBetween_eq_ok_iff {low high : Nat} {n : Int} :
    wholeBetween low high v = .ok n ↔ whole v = .ok n ∧ (low : Int) ≤ n ∧ n ≤ high := by
  unfold wholeBetween
  cases whole v with
  | error cause => exact ⟨nofun, nofun⟩
  | ok m =>
      change (if (high : Int) < m then Except.error _ else if m < low then Except.error _
        else Except.ok m) = Except.ok n ↔ _
      rw [Except.ok.injEq]
      split_ifs with above below
      · exact ⟨nofun, by rintro ⟨rfl, _, bound⟩; omega⟩
      · exact ⟨nofun, by rintro ⟨rfl, bound, _⟩; omega⟩
      · rw [Except.ok.injEq]
        exact ⟨by rintro rfl; exact ⟨rfl, by omega, by omega⟩, And.left⟩

/-- A number that is checked is refused exactly if the check finds it beyond a bound. -/
theorem checked_eq_ok_iff {beyond : Float → Prop} [DecidablePred beyond] {cause : FieldCause}
    {x : Float} :
    (do let x ← number v; if beyond x then throw cause else return x) = Except.ok x ↔
      number v = .ok x ∧ ¬ beyond x := by
  cases number v with
  | error other => exact ⟨nofun, nofun⟩
  | ok y =>
      change (if beyond y then Except.error cause else Except.ok y) = Except.ok x ↔ _
      rw [Except.ok.injEq]
      split_ifs with found
      · exact ⟨nofun, by rintro ⟨rfl, held⟩; exact absurd found held⟩
      · rw [Except.ok.injEq]
        exact ⟨by rintro rfl; exact ⟨rfl, found⟩, And.left⟩

/-- What passes as positive: the numbers above zero, and a result that is no number. -/
theorem positive_eq_ok_iff {x : Float} :
    positive v = .ok x ↔ number v = .ok x ∧ (0 < x ∨ x.isNaN = true) := by
  have zero : (0 : Float).isNaN = false := by decide
  refine checked_eq_ok_iff.trans (and_congr_right fun _ => ?_)
  simp only [Number.not_le_iff, zero, Bool.false_eq_true, or_false]

/-- What passes as not negative: the numbers from zero on, and a result that is no number. -/
theorem notNegative_eq_ok_iff {x : Float} :
    notNegative v = .ok x ↔ number v = .ok x ∧ (0 ≤ x ∨ x.isNaN = true) := by
  have zero : (0 : Float).isNaN = false := by decide
  refine checked_eq_ok_iff.trans (and_congr_right fun _ => ?_)
  simp only [Number.not_lt_iff, zero, Bool.false_eq_true, or_false]

theorem word_eq_ok_iff {α : Type} [Named α] [LawfulNamed α] {a : α} :
    word α v = .ok a ↔ v = .text (Named.name a) := by
  cases v with
  | text s =>
      rw [Value.text.injEq, @eq_comm _ s, ← Named.ofName?_eq_some_iff]
      unfold word
      dsimp only
      cases Named.ofName? (α := α) s <;> simp
  | _ => simp [word]

/-! ## Words for no number -/

/-- A text is the word for a result that is no number, apart from white space around it, a sign in
front of it, the case of its letters, and underscores. -/
def SpellsNoNumber (s : String) : Prop :=
  (Number.splitSign ((trim s.toList).filter (· != '_'))).2.map Char.toLower = ['n', 'a', 'n']

/-- A value that says a result that is no number. -/
def SaysNoNumber : Value → Prop
  | .float x => x.isNaN = true
  | .text s => SpellsNoNumber s
  | _ => False

theorem dropEnds_eq_self {p : Char → Bool} {s : List Char} (kept : ∀ c ∈ s, p c = false) :
    ((s.dropWhile p).reverse.dropWhile p).reverse = s := by
  have same {t : List Char} (kept : ∀ c ∈ t, p c = false) : t.dropWhile p = t := by
    refine List.dropWhile_eq_self_iff.mpr fun filled => ?_
    rw [kept _ (List.getElem_mem filled)]
    exact Bool.false_ne_true
  rw [same kept, same fun c member => kept c (List.mem_reverse.mp member), List.reverse_reverse]

theorem plain_of_plainNumber? {s : List Char} {x : Float} (read : plainNumber? s = some x) :
    Number.readFloat? s = some x ∧ ∀ c ∈ s, c ≠ '_' ∧ Text.isBlank c = false := by
  unfold plainNumber? at read
  split_ifs at read with plain
  refine ⟨read, fun c member => ?_⟩
  have holds := List.all_eq_true.mp plain c member
  simp only [Bool.and_eq_true, bne_iff_ne, Bool.not_eq_true'] at holds
  exact ⟨holds.1.2, holds.2⟩

theorem spellsNoNumber_of_plainNumber? {s : String} {x : Float}
    (read : plainNumber? ((trim s.toList).filter (· != '_')) = some x) (none : x.isNaN = true) :
    SpellsNoNumber s := by
  obtain ⟨number, plain⟩ := plain_of_plainNumber? read
  have trimmed := Number.word_of_isNaN number none
  have same := dropEnds_eq_self fun c member => (plain c member).2
  rwa [show Text.trim _ = _ from same] at trimmed

/-- Only a word for it is read as a result that is no number. -/
theorem spellsNoNumber_of_numberOfText {s : String} {x : Float}
    (read : numberOfText s.toList = .ok x) (none : x.isNaN = true) : SpellsNoNumber s := by
  unfold numberOfText at read
  split at read
  · rename_i y found
    cases read
    refine spellsNoNumber_of_plainNumber? ?_ none
    rcases Option.or_eq_some_iff.mp found with first | ⟨_, second⟩
    · have kept : (trim s.toList).filter (· != '_') = trim s.toList :=
        List.filter_eq_self.mpr fun c member =>
          bne_iff_ne.mpr ((plain_of_plainNumber? first).2 c member).1
      rwa [kept]
    · obtain ⟨t, stripped, number⟩ := Option.bind_eq_some_iff.mp second
      unfold withoutUnderscores? at stripped
      dsimp only at stripped
      split_ifs at stripped
      cases stripped
      have kept : trim s.toList = s.toList := by
        refine dropEnds_eq_self fun c member => ?_
        by_cases same : c = '_'
        · subst same
          decide
        · have stays : c ∈ s.toList.filter (· != '_') :=
            List.mem_filter.mpr ⟨member, bne_iff_ne.mpr same⟩
          have filled := ((plain_of_plainNumber? number).2 c stays).2
          exact (Bool.or_eq_false_iff.mp filled).1
      rwa [kept]
  · cases read

/-- A setting is a result that is no number where its value says one. -/
theorem saysNoNumber_of_number {x : Float} (read : number v = .ok x) (none : x.isNaN = true) :
    SaysNoNumber v := by
  cases v with
  | bool b =>
      cases read
      cases b <;> exact absurd none (by decide)
  | int n =>
      unfold number at read
      dsimp only at read
      split_ifs at read
      cases read
      rw [Number.isNaN_floatOfInt] at none
      cases none
  | float y =>
      cases read
      exact none
  | text s => exact spellsNoNumber_of_numberOfText read none
  | _ => cases read

end Field

/-! ## Keys -/

/-- A key that the file of the settings can set. -/
inductive Key where
  | host | port | pollInterval | debounce
  | themeFile
  | exportTitle | exportDirectory | exportFormat

namespace Key

/-- The table in which a key stands, and its name there. -/
def place : Key → String × String
  | host => ("preview", "host")
  | port => ("preview", "port")
  | pollInterval => ("preview", "poll_interval")
  | debounce => ("preview", "debounce")
  | themeFile => ("theme", "file")
  | exportTitle => ("export", "title")
  | exportDirectory => ("export", "output_dir")
  | exportFormat => ("export", "format")

/-- The settings have the default of a key. -/
def HasDefault (s : Settings) : Key → Prop
  | host => s.host = "127.0.0.1"
  | port => s.port = 5173
  | pollInterval => s.pollInterval = 0.5
  | debounce => s.debounce = 0.3
  | themeFile => s.themeFile = "textui-theme.yml"
  | exportTitle => s.exportTitle = "TextUI Export"
  | exportDirectory => s.exportDirectory = "."
  | exportFormat => s.exportFormat = .html

/-- The settings have under a key what a value says. -/
def Takes (s : Settings) (v : Value) : Key → Prop
  | host => v = .text s.host
  | port => Field.whole v = .ok s.port
  | pollInterval => Field.number v = .ok s.pollInterval
  | debounce => Field.number v = .ok s.debounce
  | themeFile => v = .text s.themeFile
  | exportTitle => v = .text s.exportTitle
  | exportDirectory => v = .text s.exportDirectory
  | exportFormat => v = .text (Named.name s.exportFormat)

/-- What the settings have under a key lies within the bounds of the key. -/
def Within (s : Settings) : Key → Prop
  | port => 0 ≤ s.port ∧ s.port ≤ 65535
  | pollInterval => 0 < s.pollInterval
  | debounce => 0 ≤ s.debounce
  | _ => True

/-- What the settings have under a key is a result that is no number. -/
def NoNumber (s : Settings) : Key → Prop
  | pollInterval => s.pollInterval.isNaN = true
  | debounce => s.debounce.isNaN = true
  | _ => False

/-- The value of a key in the file fits the settings. -/
def Fits (s : Settings) (v : Value) (key : Key) : Prop :=
  key.Takes s v ∧ (key.Within s ∨ key.NoNumber s)

variable {s : Settings} {v : Value} {key : Key}

theorem within_of_hasDefault (default : key.HasDefault s) : key.Within s := by
  cases key with
  | port =>
      rw [HasDefault] at default
      exact ⟨by omega, by omega⟩
  | pollInterval =>
      rw [HasDefault] at default
      rw [Within, default]
      decide
  | debounce =>
      rw [HasDefault] at default
      rw [Within, default]
      decide
  | _ => trivial

theorem saysNoNumber_of_takes (takes : key.Takes s v) (none : key.NoNumber s) :
    Field.SaysNoNumber v := by
  cases key with
  | pollInterval => exact Field.saysNoNumber_of_number takes none
  | debounce => exact Field.saysNoNumber_of_number takes none
  | _ => cases none

end Key

/-! ## Entries -/

/-- The entries of a table; a table that is not there has none. -/
def tableOf (entries : Toml.Entries) (name : String) : Toml.Entries :=
  match Value.field? name entries with
  | some (.map found) => found
  | _ => []

/-- What stands in the place of a table is a table. -/
def Tabled (entries : Toml.Entries) (name : String) : Prop :=
  ∀ v, Value.field? name entries = some v → ∃ found, v = .map found

/-- The value that the entries of a file give to a key. -/
def Key.value? (entries : Toml.Entries) (key : Key) : Option Value :=
  Value.field? key.place.2 (tableOf entries key.place.1)

/-- The settings have under a key what the entries of a file say, or its default. -/
structure Agrees (entries : Toml.Entries) (s : Settings) (key : Key) : Prop where
  set : ∀ v, key.value? entries = some v → key.Fits s v
  unset : key.value? entries = none → key.HasDefault s

/-- The entries of a file have a problem: another value where a table is wanted, or a value that
fits no settings. -/
inductive Misfit (entries : Toml.Entries) : Problem → Prop where
  | noTable {key : Key} {fullName : String} {v : Value}
    (found : Value.field? key.place.1 entries = some v) (other : ∀ table, v ≠ .map table) :
    Misfit entries (.field [key.place.1] (.notTable fullName))
  | unfit {key : Key} {v : Value} {cause : FieldCause} (found : key.value? entries = some v)
    (unfit : ∀ s, ¬ key.Fits s v) :
    Misfit entries (.field [key.place.1, key.place.2] cause)

/-- What comes out is right, or a problem that the entries have. -/
def Judged {α : Type} (entries : Toml.Entries) (right : α → Prop) : Except Problem α → Prop
  | .ok a => right a
  | .error problem => Misfit entries problem

section

variable {α β : Type} {entries : Toml.Entries}

theorem judged_bind {right : α → Prop} {last : β → Prop} {result : Except Problem α}
    {next : α → Except Problem β} (first : Judged entries right result)
    (second : ∀ a, right a → Judged entries last (next a)) :
    Judged entries last (result >>= next) := by
  cases result with
  | error problem => exact first
  | ok a => exact second a first

theorem judged_table (key : Key) (fullName : String) :
    Judged entries (fun table => table = tableOf entries key.place.1 ∧ Tabled entries key.place.1)
      (Load.table entries key.place.1 fullName) := by
  unfold Load.table
  split
  · rename_i missing
    refine ⟨by rw [tableOf, missing], fun v found => ?_⟩
    cases missing.symm.trans found
  · rename_i table held
    refine ⟨by rw [tableOf, held], fun v found => ?_⟩
    cases held.symm.trans found
    exact ⟨table, rfl⟩
  · rename_i v other held
    exact .noTable held fun table same => other table same

/-- A setting is read from the value of its key, and what cannot be read fits no settings. -/
theorem judged_setting (key : Key) (get : Settings → α) {default : α}
    {read : Value → Except FieldCause α} (fits : ∀ s v, read v = .ok (get s) ↔ key.Fits s v)
    (unset : ∀ s, get s = default → key.HasDefault s) :
    Judged entries (fun a => ∀ s, get s = a → Agrees entries s key)
      (Load.setting (tableOf entries key.place.1) key.place.1 key.place.2 default read) := by
  unfold Load.setting
  split
  · rename_i missing
    intro s same
    exact ⟨fun v found => (nomatch missing.symm.trans found), fun _ => unset s same⟩
  · rename_i v found
    cases readV : read v with
    | error cause =>
        refine .unfit found fun s fit => ?_
        rw [(fits s v).mpr fit] at readV
        cases readV
    | ok a =>
        intro s same
        refine ⟨fun w held => ?_, fun missing => nomatch missing.symm.trans found⟩
        cases found.symm.trans held
        exact (fits s v).mp (same ▸ readV)

/-- A text under a key without bounds. -/
theorem judged_text (key : Key) (get : Settings → String) {default : String}
    (takes : ∀ s v, key.Takes s v ↔ v = .text (get s)) (free : ∀ s, key.Within s)
    (unset : ∀ s, get s = default → key.HasDefault s) :
    Judged entries (fun a => ∀ s, get s = a → Agrees entries s key)
      (Load.setting (tableOf entries key.place.1) key.place.1 key.place.2 default Field.text) := by
  refine judged_setting key get (fun s v => ?_) unset
  rw [Field.text_eq_ok_iff, ← takes]
  exact (and_iff_left (.inl (free s))).symm

/-- What comes of the entries of a file: settings that agree with them under every key, or a problem
that they have. -/
theorem judged_ofEntries (root : FilePath) :
    Judged entries
      (fun s => s.root = root ∧ ∀ key, Tabled entries key.place.1 ∧ Agrees entries s key)
      (Load.ofEntries root entries) := by
  unfold Load.ofEntries
  refine judged_bind (judged_table .host _) ?_
  rintro _ ⟨rfl, preview⟩
  refine judged_bind (judged_text .host Settings.host (fun _ _ => Iff.rfl) (fun _ => trivial)
    fun _ => id) fun _ host => ?_
  refine judged_bind (judged_setting .port Settings.port
    (fun _ _ => Field.wholeBetween_eq_ok_iff.trans (and_congr_right fun _ => (or_iff_left id).symm))
    fun _ => id) fun _ port => ?_
  refine judged_bind (judged_setting .pollInterval Settings.pollInterval
    (fun _ _ => Field.positive_eq_ok_iff) fun _ => id) fun _ pollInterval => ?_
  refine judged_bind (judged_setting .debounce Settings.debounce
    (fun _ _ => Field.notNegative_eq_ok_iff) fun _ => id) fun _ debounce => ?_
  refine judged_bind (judged_table .themeFile _) ?_
  rintro _ ⟨rfl, theme⟩
  refine judged_bind (judged_text .themeFile Settings.themeFile (fun _ _ => Iff.rfl)
    (fun _ => trivial) fun _ => id) fun _ themeFile => ?_
  refine judged_bind (judged_table .exportTitle _) ?_
  rintro _ ⟨rfl, exports⟩
  refine judged_bind (judged_text .exportTitle Settings.exportTitle (fun _ _ => Iff.rfl)
    (fun _ => trivial) fun _ => id) fun _ exportTitle => ?_
  refine judged_bind (judged_text .exportDirectory Settings.exportDirectory (fun _ _ => Iff.rfl)
    (fun _ => trivial) fun _ => id) fun _ exportDirectory => ?_
  refine judged_bind (judged_setting .exportFormat Settings.exportFormat
    (fun _ _ => Field.word_eq_ok_iff.trans (and_iff_left (.inl trivial)).symm) fun _ => id)
    fun _ exportFormat => ?_
  refine ⟨rfl, fun key => ?_⟩
  cases key with
  | host => exact ⟨preview, host _ rfl⟩
  | port => exact ⟨preview, port _ rfl⟩
  | pollInterval => exact ⟨preview, pollInterval _ rfl⟩
  | debounce => exact ⟨preview, debounce _ rfl⟩
  | themeFile => exact ⟨theme, themeFile _ rfl⟩
  | exportTitle => exact ⟨exports, exportTitle _ rfl⟩
  | exportDirectory => exact ⟨exports, exportDirectory _ rfl⟩
  | exportFormat => exact ⟨exports, exportFormat _ rfl⟩

/-- Where settings agree with the entries, these have no problem. -/
theorem not_misfit {s : Settings}
    (agrees : ∀ key, Tabled entries key.place.1 ∧ Agrees entries s key) (problem : Problem) :
    ¬ Misfit entries problem := by
  rintro (⟨found, other⟩ | ⟨found, unfit⟩)
  · obtain ⟨table, same⟩ := (agrees _).1 _ found
    exact other table same
  · exact unfit s ((agrees _).2.set _ found)

end

/-! ## Files -/

/-- The file of the settings holds a text. -/
def HasText (files : Files) (root : FilePath) (chars : List Char) : Prop :=
  ∃ bytes, files.readLines (path root) = .ok bytes ∧ Text.Utf8.decode bytes = .ok chars

/-- The file of the settings sets a key to a value. -/
def Sets (files : Files) (root : FilePath) (key : Key) (v : Value) : Prop :=
  ∃ chars entries, HasText files root chars ∧ Toml.read chars = .ok entries ∧
    key.value? entries = some v

/-- The file of the settings has a problem. -/
inductive Wrong (files : Files) (root : FilePath) : Problem → Prop where
  | unreadable {refusal : Files.Refusal} (stands : files.contains (path root) = true)
    (refused : files.readLines (path root) = .error refusal) :
    Wrong files root (.unreadable refusal)
  | notUtf8 {bytes : List UInt8} (read : files.readLines (path root) = .ok bytes)
    (none : ∀ chars, Text.Utf8.decode bytes ≠ .ok chars) : Wrong files root .notUtf8
  | broken {chars : List Char} {flaw : Toml.Flaw} {unread : Nat} (text : HasText files root chars)
    (flawed : Toml.read chars = .error (.flawed flaw unread)) :
    Wrong files root (.broken flaw (Toml.placeText chars unread))
  | misfit {chars : List Char} {entries : Toml.Entries} {problem : Problem}
    (text : HasText files root chars) (read : Toml.read chars = .ok entries)
    (misfit : Misfit entries problem) : Wrong files root problem

/-- Settings agree with the file, which has entries if it stands there, and no problem. Every number
lies within its bounds, unless the file says a result that is no number for it. -/
structure Conforms (files : Files) (root : FilePath) (s : Settings) : Prop where
  readable : files.contains (path root) = true →
    ∃ chars entries, HasText files root chars ∧ Toml.read chars = .ok entries
  faultless : ∀ problem, ¬ Wrong files root problem
  rooted : s.root = root
  within : ∀ key : Key, key.Within s ∨
    key.NoNumber s ∧ ∃ v, Sets files root key v ∧ Field.SaysNoNumber v
  set : ∀ key v, Sets files root key v → key.Takes s v
  unset : ∀ key : Key, (∀ v, ¬ Sets files root key v) → key.HasDefault s

variable {files : Files} {root : FilePath}

theorem HasText.unique {chars others : List Char} (text : HasText files root chars)
    (other : HasText files root others) : others = chars := by
  obtain ⟨bytes, read, decoded⟩ := text
  obtain ⟨bytes', read', decoded'⟩ := other
  cases read.symm.trans read'
  cases decoded.symm.trans decoded'
  rfl

/-- What a file with entries sets. -/
theorem sets_iff {chars : List Char} {entries : Toml.Entries} (text : HasText files root chars)
    (read : Toml.read chars = .ok entries) {key : Key} {v : Value} :
    Sets files root key v ↔ key.value? entries = some v := by
  constructor
  · rintro ⟨chars', entries', text', read', found⟩
    cases text.unique text'
    cases read.symm.trans read'
    exact found
  · exact fun found => ⟨chars, entries, text, read, found⟩

/-- A file with entries that have no problem has none. -/
theorem not_wrong {chars : List Char} {entries : Toml.Entries} (text : HasText files root chars)
    (parsed : Toml.read chars = .ok entries) (fit : ∀ problem, ¬ Misfit entries problem)
    (problem : Problem) : ¬ Wrong files root problem := by
  obtain ⟨bytes, read, decoded⟩ := id text
  rintro (⟨_, refused⟩ | ⟨again, none⟩ | ⟨other, flawed⟩ | ⟨other, again, misfit⟩)
  · cases read.symm.trans refused
  · cases read.symm.trans again
    exact none chars decoded
  · cases text.unique other
    cases parsed.symm.trans flawed
  · cases text.unique other
    cases parsed.symm.trans again
    exact fit _ misfit

theorem conforms_of_agrees {chars : List Char} {entries : Toml.Entries} {s : Settings}
    (text : HasText files root chars) (read : Toml.read chars = .ok entries)
    (rooted : s.root = root) (agrees : ∀ key, Tabled entries key.place.1 ∧ Agrees entries s key) :
    Conforms files root s where
  readable _ := ⟨chars, entries, text, read⟩
  faultless := not_wrong text read (not_misfit agrees)
  rooted := rooted
  within key := by
    cases found : key.value? entries with
    | none => exact .inl (Key.within_of_hasDefault ((agrees key).2.unset found))
    | some v =>
        obtain ⟨takes, bounds⟩ := (agrees key).2.set v found
        refine bounds.imp_right fun none => ⟨none, v, (sets_iff text read).mpr found, ?_⟩
        exact Key.saysNoNumber_of_takes takes none
  set key v sets := ((agrees key).2.set v ((sets_iff text read).mp sets)).1
  unset key missing :=
    (agrees key).2.unset <| Option.eq_none_iff_forall_not_mem.mpr fun v found =>
      missing v ((sets_iff text read).mpr found)

theorem hasDefault_defaults (root : FilePath) (key : Key) : key.HasDefault (defaults root) := by
  cases key <;> rfl

/-- What is read stands there. -/
theorem contains_of_readLines {bytes : List UInt8}
    (read : files.readLines (path root) = .ok bytes) : files.contains (path root) = true := by
  rw [Files.readLines, Files.read] at read
  rw [Files.contains]
  cases found : files.lookUp (path root) with
  | ok entry => rfl
  | error refusal =>
      rw [found] at read
      cases read

theorem HasText.contains {chars : List Char} :
    HasText files root chars → files.contains (path root) = true
  | ⟨_, read, _⟩ => contains_of_readLines read

theorem Wrong.contains {problem : Problem} (wrong : Wrong files root problem) :
    files.contains (path root) = true := by
  cases wrong with
  | unreadable stands refused => exact stands
  | notUtf8 read none => exact contains_of_readLines read
  | broken text flawed => exact text.contains
  | misfit text read misfit => exact text.contains

/-- Without a file the defaults agree with it. -/
theorem conforms_defaults (absent : ¬ files.contains (path root) = true) :
    Conforms files root (defaults root) where
  readable stands := absurd stands absent
  faultless _ wrong := absent wrong.contains
  rooted := rfl
  within key := .inl (Key.within_of_hasDefault (hasDefault_defaults root key))
  set := fun _ _ ⟨_, _, text, _⟩ => absurd text.contains absent
  unset key _ := hasDefault_defaults root key

/-- What may come of loading: settings that agree with the file, which then has no problem, a
refusal of the file for a problem that it has, or a break at a whole number that is too long. -/
def Outcome (files : Files) (root : FilePath) : Except Fault Settings → Prop
  | .ok s => Conforms files root s
  | .error (.refused refused problem) => refused = path root ∧ Wrong files root problem
  | .error (.tooManyDigits count) => ∃ chars, HasText files root chars ∧ Toml.Overlong chars count

theorem outcome_of_ofBytes {bytes : List UInt8} (read : files.readLines (path root) = .ok bytes) :
    Outcome files root (Load.ofBytes root (path root) bytes) := by
  unfold Load.ofBytes
  split
  · rename_i failure decoded
    exact ⟨rfl, .notUtf8 read fun chars held => nomatch decoded.symm.trans held⟩
  · rename_i chars decoded
    have text : HasText files root chars := ⟨bytes, read, decoded⟩
    split
    · rename_i count parsed
      exact ⟨chars, text, Toml.overlong_of_read parsed⟩
    · rename_i flaw unread parsed
      exact ⟨rfl, .broken text parsed⟩
    · rename_i entries parsed
      have judged : Judged entries _ (Load.ofEntries root entries) := judged_ofEntries root
      cases made : Load.ofEntries root entries with
      | error problem =>
          rw [made] at judged
          exact ⟨rfl, .misfit text parsed judged⟩
      | ok s =>
          rw [made] at judged
          exact conforms_of_agrees text parsed judged.1 judged.2

/-- **What comes of loading.** Whatever stands where the file of the settings is looked for, loading
gives settings that agree with it, refuses it for a problem that it has, or breaks off at a whole
number that is too long. -/
theorem outcome_of_load (files : Files) (root : FilePath) :
    Outcome files root (load files root) := by
  by_cases stands : files.contains (path root) = true
  · rw [load, if_pos stands]
    split
    · rename_i bytes read
      exact outcome_of_ofBytes read
    · rename_i refusal refused
      exact ⟨rfl, .unreadable stands refused⟩
  · rw [load, if_neg stands]
    exact conforms_defaults stands

/-- The name of the file is one name. -/
theorem ofText_fileName : FilePath.ofText Load.fileName = ⟨"", [Load.fileName]⟩ := by
  have whole : Load.fileName.splitOn "/" = [Load.fileName] := by
    rw [String.splitOn, if_neg (by decide)]
    -- one character after the other, up to the end
    iterate 12 rw [String.splitOnAux]
    decide +kernel
  rw [FilePath.ofText, FilePath.namesOf, whole]
  decide

/-- The file of the settings alone, with a text, in the directory at the root. -/
def withText (text : String) : Files where
  home := ⟨"/", []⟩
  entries := [([Load.fileName], .file (Text.Utf8.encode text))]

theorem load_withText (text : String) :
    load (withText text) ⟨"/", []⟩ = Load.ofBytes ⟨"/", []⟩ ⟨"/", [Load.fileName]⟩
      (Files.unifyBreaks (Text.Utf8.encode text)) := by
  have stands : path ⟨"/", []⟩ = ⟨"/", [Load.fileName]⟩ := by
    rw [path, ofText_fileName]
    rfl
  rw [load, stands]
  rfl

/-- A file says no number for the time between two looks at the files, and it is not refused. -/
theorem loads_no_number :
    ¬ ∀ files root, match load files root with
      | .ok s => ∀ key : Key, key.Within s ∧ ((∀ v, ¬ Sets files root key v) → key.HasDefault s)
      | .error fault => ∃ problem, fault = .refused (path root) problem := by
  intro every
  have loaded := every (withText "[preview]\npoll_interval = nan\n") ⟨"/", []⟩
  have none : (Load.ofBytes ⟨"/", []⟩ ⟨"/", [Load.fileName]⟩ (Files.unifyBreaks
      (Text.Utf8.encode "[preview]\npoll_interval = nan\n"))).toOption.any
        (·.pollInterval.isNaN) = true := by
    decide +kernel
  rw [← load_withText] at none
  cases made : load (withText "[preview]\npoll_interval = nan\n") ⟨"/", []⟩ with
  | error fault =>
      rw [made] at none
      cases none
  | ok s =>
      rw [made] at loaded none
      exact Number.not_lt_of_isNaN none (loaded .pollInterval).1

end Settings

end Wireframe
