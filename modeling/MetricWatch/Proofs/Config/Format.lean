import MetricWatch.Config.Json
import MetricWatch.Proofs.Json.Records

/-!
The text format of configurations. The members may stand in any order, those with their default value
may be missing, and members of other names may stand anywhere between them.
-/

namespace MetricWatch

open Json (Reads Begins Entry Gathers Takes)

theorem Aggregate.reads_jsonChars (a : Aggregate) : Reads read a.jsonChars a := by
  apply Json.reads_variant
  cases a <;> rfl

namespace Definition

theorem reads_jsonChars (d : Definition) : Reads read d.jsonChars d := by
  have hdraft : Gathers Json.textBody record.readMember {}
      [.printed "name" (Json.textChars d.name), .printed "window_path" (Json.textChars d.path),
        .printed "label" (Json.textChars d.label)]
      { name := some d.name, path := some d.path, label := some d.label } :=
    .cons (Json.takes_stored record "name" rfl rfl (Json.reads_text d.name))
      (.cons (Json.takes_stored record "window_path" rfl rfl (Json.reads_text d.path))
        (.cons (Json.takes_stored record "label" rfl rfl (Json.reads_text d.label)) (.nil _)))
  have hrecord := Json.reads_record Draft.finish hdraft rfl
  simp only [List.map_cons, List.map_nil, Entry.chars_printed] at hrecord
  intro rest hrest
  rw [jsonChars, read, hrecord rest hrest]
  simp only [Json.ok_bind, make_self]

theorem begins_jsonChars (d : Definition) : Begins d.jsonChars := Json.begins_objectChars _

end Definition

namespace Panel

theorem reads_jsonChars (p : Panel) : Reads read p.jsonChars p := by
  have hdraft : Gathers Json.textBody record.readMember {}
      [.printed "title" (Json.textChars p.title), .printed "counter" (Json.textChars p.counter),
        .printed "aggregate" p.aggregate.jsonChars]
      { title := some p.title, counter := some p.counter, aggregate := some p.aggregate } :=
    .cons (Json.takes_stored record "title" rfl rfl (Json.reads_text p.title))
      (.cons (Json.takes_stored record "counter" rfl rfl (Json.reads_text p.counter))
        (.cons (Json.takes_stored record "aggregate" rfl rfl p.aggregate.reads_jsonChars) (.nil _)))
  have hrecord := Json.reads_record Draft.finish hdraft rfl
  simp only [List.map_cons, List.map_nil, Entry.chars_printed] at hrecord
  exact hrecord

theorem begins_jsonChars (p : Panel) : Begins p.jsonChars := Json.begins_objectChars _

end Panel

namespace Config

/-- The members of a configuration. -/
inductive Member where
  | endpoint
  | mbean
  | tickInterval
  | failureThreshold
  | requestTimeout
  | metrics
  | panels
  deriving DecidableEq

namespace Member

def all : List Member :=
  [endpoint, mbean, tickInterval, failureThreshold, requestTimeout, metrics, panels]

def name : Member → String
  | endpoint => "endpoint_url"
  | mbean => "mbean"
  | tickInterval => "tick_interval_ms"
  | failureThreshold => "failure_threshold"
  | requestTimeout => "request_timeout_ms"
  | metrics => "metrics"
  | panels => "panels"

/-- A member's value as it is written. -/
def value (c : Config) : Member → List Char
  | endpoint => Json.textChars c.endpoint
  | mbean => Json.textChars c.mbean
  | tickInterval => Json.naturalChars c.tickInterval.toNat
  | failureThreshold => Json.naturalChars c.failureThreshold.toNat
  | requestTimeout => Json.naturalChars c.requestTimeout.toNat
  | metrics => Json.listChars (c.metrics.map Definition.jsonChars)
  | panels => Json.listChars (c.panels.map Panel.jsonChars)

/-- Whether a configuration has a member's default value. -/
def IsDefault (c : Config) : Member → Prop
  | endpoint => c.endpoint = ({} : Config).endpoint
  | mbean => c.mbean = ({} : Config).mbean
  | tickInterval => c.tickInterval = ({} : Config).tickInterval
  | failureThreshold => c.failureThreshold = ({} : Config).failureThreshold
  | requestTimeout => c.requestTimeout = ({} : Config).requestTimeout
  | metrics => c.metrics = ({} : Config).metrics
  | panels => c.panels = ({} : Config).panels

def entry (c : Config) (m : Member) : Entry := .printed m.name (m.value c)

theorem jsonMembers_eq (c : Config) : c.jsonMembers = all.map fun m => (m.entry c).chars := by
  simp only [entry, Entry.chars_printed]
  rfl

end Member

/-- What has been read of a configuration once some of its members have. -/
def draft (c : Config) (given : List Member) : Draft where
  endpoint := if .endpoint ∈ given then some c.endpoint else none
  mbean := if .mbean ∈ given then some c.mbean else none
  tickInterval := if .tickInterval ∈ given then some c.tickInterval else none
  failureThreshold := if .failureThreshold ∈ given then some c.failureThreshold else none
  requestTimeout := if .requestTimeout ∈ given then some c.requestTimeout else none
  metrics := if .metrics ∈ given then some c.metrics else none
  panels := if .panels ∈ given then some c.panels else none

theorem getD_ite {α : Type} {p : Prop} [Decidable p] {x default : α} (h : ¬ p → x = default) :
    (if p then some x else none).getD default = x := by
  split
  · rfl
  · exact (h ‹_›).symm

theorem complete_draft {c : Config} {given : List Member} (h : ∀ m, m ∉ given → m.IsDefault c) :
    (c.draft given).complete = c := by
  rw [Draft.complete, draft]
  simp only [getD_ite (h .endpoint), getD_ite (h .mbean), getD_ite (h .tickInterval),
    getD_ite (h .failureThreshold), getD_ite (h .requestTimeout), getD_ite (h .metrics),
    getD_ite (h .panels)]

/-- A member that is read for the first time is stored. -/
theorem takes_entry (c : Config) {m : Member} {given : List Member} (hm : m ∉ given) :
    Takes Json.textBody record.readMember (c.draft given) (m.entry c) (c.draft (m :: given)) := by
  cases m with
  | endpoint =>
      have hgiven : (c.draft given).endpoint.isSome = false := by simp [draft, hm]
      have htakes := Json.takes_stored record "endpoint_url" rfl hgiven
        (Json.reads_text c.endpoint)
      exact htakes.congr (by simp [draft])
  | mbean =>
      have hgiven : (c.draft given).mbean.isSome = false := by simp [draft, hm]
      have htakes := Json.takes_stored record "mbean" rfl hgiven
        (Json.reads_text c.mbean)
      exact htakes.congr (by simp [draft])
  | tickInterval =>
      have hgiven : (c.draft given).tickInterval.isSome = false := by simp [draft, hm]
      have htakes := Json.takes_stored record "tick_interval_ms" rfl hgiven
        (Json.reads_word64 c.tickInterval)
      exact htakes.congr (by simp [draft])
  | failureThreshold =>
      have hgiven : (c.draft given).failureThreshold.isSome = false := by simp [draft, hm]
      have htakes := Json.takes_stored record "failure_threshold" rfl hgiven
        (Json.reads_word32 c.failureThreshold)
      exact htakes.congr (by simp [draft])
  | requestTimeout =>
      have hgiven : (c.draft given).requestTimeout.isSome = false := by simp [draft, hm]
      have htakes := Json.takes_stored record "request_timeout_ms" rfl hgiven
        (Json.reads_word64 c.requestTimeout)
      exact htakes.congr (by simp [draft])
  | metrics =>
      have hgiven : (c.draft given).metrics.isSome = false := by simp [draft, hm]
      have htakes := Json.takes_stored record "metrics" rfl hgiven
        (Json.reads_list c.metrics fun d _ => ⟨d.reads_jsonChars, d.begins_jsonChars⟩)
      exact htakes.congr (by simp [draft])
  | panels =>
      have hgiven : (c.draft given).panels.isSome = false := by simp [draft, hm]
      have htakes := Json.takes_stored record "panels" rfl hgiven
        (Json.reads_list c.panels fun p _ => ⟨p.reads_jsonChars, p.begins_jsonChars⟩)
      exact htakes.congr (by simp [draft])

/-- A member of another name, with any value. -/
structure IsForeign (e : Entry) : Prop where
  key : ∃ name, Json.Spells e.key name ∧ ∀ m : Member, m.name ≠ String.ofList name
  value : Json.IsValue e.value

theorem takes_foreign {e : Entry} (he : IsForeign e) (d : Draft) :
    Takes Json.textBody record.readMember d e d := by
  obtain ⟨name, hkey, hname⟩ := he.key
  apply Json.takes_unknown hkey _ he.value
  have hfields : record.fields.map (·.name) = Member.all.map Member.name := rfl
  intro field hfield
  have hmem : field.name ∈ Member.all.map Member.name := by
    rw [← hfields]
    exact List.mem_map_of_mem hfield
  obtain ⟨m, -, hm⟩ := List.mem_map.1 hmem
  rw [← hm]
  exact hname m

/-- What stands between two commas: a member of the configuration, or another. -/
inductive Part where
  | own (m : Member)
  | other (e : Entry)

namespace Part

def entry (c : Config) : Part → Entry
  | own m => m.entry c
  | other e => e

def member? : Part → Option Member
  | own m => some m
  | other _ => none

end Part

/-- Whether a configuration can be written as some parts: each member at most once, none missing
that has not its default value, and whatever well-formed members of other names. -/
structure Arranged (c : Config) (parts : List Part) : Prop where
  once : (parts.filterMap Part.member?).Nodup
  missing : ∀ m, m ∉ parts.filterMap Part.member? → m.IsDefault c
  others : ∀ e, .other e ∈ parts → IsForeign e

/-- The text of a configuration that is written as some parts. -/
def arrangement (c : Config) (parts : List Part) : String :=
  String.ofList (Json.objectChars (parts.map fun part => (part.entry c).chars))

-- The draft is determined by which members have been read, in whatever order they came. A part adds its
-- member to those, or it leaves the draft as it is.
theorem gathers_parts (c : Config) (given : List Member) {parts : List Part}
    (honce : (parts.filterMap Part.member?).Nodup)
    (hnew : ∀ m ∈ parts.filterMap Part.member?, m ∉ given)
    (hothers : ∀ e, .other e ∈ parts → IsForeign e) :
    ∃ given', (∀ m, m ∈ given' ↔ m ∈ given ∨ m ∈ parts.filterMap Part.member?) ∧
      Gathers Json.textBody record.readMember (c.draft given) (parts.map (Part.entry c))
        (c.draft given') := by
  induction parts generalizing given with
  | nil => exact ⟨given, fun m => by simp, .nil _⟩
  | cons part parts ih =>
      have hlater : ∀ e, .other e ∈ parts → IsForeign e :=
        fun e he => hothers e (List.mem_cons_of_mem _ he)
      cases part with
      | own m =>
          rw [List.filterMap_cons_some (show Part.member? (.own m) = some m from rfl)] at honce hnew ⊢
          obtain ⟨hfirst, honce⟩ := List.nodup_cons.1 honce
          obtain ⟨hm, hnew⟩ := List.forall_mem_cons.1 hnew
          have hfresh : ∀ m' ∈ parts.filterMap Part.member?, m' ∉ m :: given := by
            rintro m' hm' hmem
            rcases List.mem_cons.1 hmem with rfl | hmem
            · exact hfirst hm'
            · exact hnew m' hm' hmem
          obtain ⟨given', hgiven', hgathers⟩ := ih (m :: given) honce hfresh hlater
          refine ⟨given', ?_, .cons (takes_entry c hm) hgathers⟩
          intro m'
          rw [hgiven', List.mem_cons, List.mem_cons]
          tauto
      | other e =>
          rw [List.filterMap_cons_none (show Part.member? (.other e) = none from rfl)] at honce hnew ⊢
          obtain ⟨given', hgiven', hgathers⟩ := ih given honce hnew hlater
          exact ⟨given', hgiven', .cons (takes_foreign (hothers e List.mem_cons_self) _) hgathers⟩

theorem parse_of_arranged {c : Config} {parts : List Part} (h : c.Arranged parts) :
    parse (c.arrangement parts) = .ok c := by
  obtain ⟨given, hgiven, hgathers⟩ := gathers_parts c [] h.once nofun h.others
  have hcomplete : (c.draft given).complete = c := by
    apply complete_draft
    intro m hm
    apply h.missing m
    exact fun hmem => hm ((hgiven m).2 (.inr hmem))
  have hempty : c.draft [] = {} := by simp [draft]
  rw [hempty] at hgathers
  have hread := Json.reads_record (fun d : Draft => .ok d.complete) hgathers
    (congrArg Except.ok hcomplete)
  rw [List.map_map] at hread
  rw [parse, arrangement]
  exact Json.whole_of_reads hread

theorem arranged_all (c : Config) : c.Arranged (Member.all.map .own) where
  once := by decide
  missing m hm := absurd (by cases m <;> decide) hm
  others e he := by simp at he

theorem arrangement_all (c : Config) :
    c.arrangement (Member.all.map .own) = String.ofList c.jsonChars := by
  rw [arrangement, jsonChars, Member.jsonMembers_eq, List.map_map]
  rfl

theorem parse_jsonChars (c : Config) : parse (String.ofList c.jsonChars) = .ok c := by
  rw [← arrangement_all]
  exact parse_of_arranged c.arranged_all

/-- Whatever the order of its members, whichever defaults are missing and whatever else stands between
them, the text of a configuration is read as that configuration, and it is refused exactly as the
configuration is. In particular a configuration is read back as it was written. -/
theorem parse_text (c : Config) :
    c.jsonMembers = (Member.all.map fun m => (m.entry c).chars) ∧
    parse (String.ofList c.jsonChars) = .ok c ∧
    ∀ parts, c.Arranged parts →
      parse (c.arrangement parts) = .ok c ∧
      (c.validate = .ok () → load (c.arrangement parts) = .ok c) ∧
      ∀ e, c.validate = .error e → load (c.arrangement parts) = .error e := by
  refine ⟨Member.jsonMembers_eq c, c.parse_jsonChars, ?_⟩
  intro parts hparts
  have hparse := parse_of_arranged hparts
  have hload : load (c.arrangement parts) = c.validate.map fun () => c := by
    rw [load, hparse]
  refine ⟨hparse, ?_, ?_⟩
  · intro hvalid
    rw [hload, hvalid]
    rfl
  · intro e he
    rw [hload, he]
    rfl

/-- A configuration of one panel. -/
def charted : Config where
  endpoint := "http://h/jolokia"
  panels := [⟨"All", "Req", .avg⟩]

/-- A list of an empty word and an object that holds half a surrogate pair. -/
def oddValue : List Char :=
  Json.listChars ([(.none, Json.nullChars), (.none, Json.objectChars ([
    ⟨.none, ['a'], .none, '"' :: (['\\', 'u', 'd', '8', '0', '0'] ++ ['"'])⟩].map Entry.chars))].map
      Json.itemText)

def spaced : Json.Padding := ⟨[' '], [' '], by decide, by decide⟩

/-- The panel and the endpoint, with a member before them that a configuration does not have. -/
def noted : List Part :=
  [.other ⟨spaced, "note".toList.flatMap Json.escapeChar, spaced, oddValue⟩, .own .panels,
    .own .endpoint]

theorem isValue_oddValue : Json.IsValue oddValue := by
  apply Json.IsValue.list
  rintro i hi
  rcases List.mem_cons.1 hi with rfl | hi
  · exact .null
  · obtain rfl := List.mem_singleton.1 hi
    apply Json.IsValue.object
    · rintro e he
      obtain rfl := List.mem_singleton.1 he
      exact .plain rfl (by decide) (by decide) .nil
    · rintro e he
      obtain rfl := List.mem_singleton.1 he
      exact .text (@Json.IsBody.escape ['u', 'd', '8', '0', '0'] [] (.unit rfl) .nil)

theorem arranged_noted : charted.Arranged noted where
  once := by decide
  missing m hm := by
    cases m with
    | endpoint | panels => exact absurd (by decide) hm
    | mbean | tickInterval | failureThreshold | requestTimeout | metrics => rfl
  others e he := by
    obtain rfl : e = ⟨spaced, "note".toList.flatMap Json.escapeChar, spaced, oddValue⟩ := by
      simpa [noted] using he
    refine ⟨⟨"note".toList, Json.spells_escaped _, ?_⟩, isValue_oddValue⟩
    intro m
    cases m <;> decide

/-- The text of that panel and endpoint. -/
def notedText : String :=
  "\x7b \"note\" : [null,\x7b\"a\":\"\\ud800\"\x7d] ," ++
    "\"panels\":[\x7b\"title\":\"All\",\"counter\":\"Req\",\"aggregate\":\"avg\"\x7d]," ++
    "\"endpoint_url\":\"http://h/jolokia\"\x7d"

theorem parse_text_noted : parse notedText = .ok charted ∧ load notedText = .ok charted := by
  have htext : charted.arrangement noted = notedText := by decide +kernel
  obtain ⟨hparse, hload, -⟩ := charted.parse_text.2.2 noted arranged_noted
  rw [htext] at hparse hload
  exact ⟨hparse, hload rfl⟩

end Config

end MetricWatch
