import ReflexPolicy.CommandLine.Run
import ReflexPolicy.Proofs.Codex.Faults
import ReflexPolicy.Proofs.Detector.Findings
import ReflexPolicy.Proofs.Detector.Isolation
import ReflexPolicy.Proofs.Handshake.Defaults
import ReflexPolicy.Proofs.Report.Shown

/-!
# Conclusions of runs

A run comes to a conclusion: it explains itself, says how it was misread, reports an outcome, or
complains.  What breaks it is a codex that cannot be loaded for a reason that is not documented,
and a score beyond the binary64 format in a file of scores; everything else that may go wrong with
the files, the request, the detectors and the report is a complaint or does not happen.
-/

namespace ReflexPolicy.CommandLine

variable {world : World} {arguments : List String} {s : Settings} {c : Codex}

/-! ### Faults that are shown -/

/-- The faults of files are shown as complaints. -/
theorem complains_of_textAt {files : Directory} {path : String} {f : Fault}
    (failed : File.textAt files path = .error f) :
  complainsOfInput f = true
  := by
  rw [File.textAt] at failed
  obtain failed | ⟨bytes, -, failed⟩ := bind_eq_error.mp failed
  · rw [File.bytesAt] at failed
    split at failed
    · cases failed
      rfl
    · split at failed
      · cases failed
        rfl
      · cases failed
  · split at failed
    · cases failed
    · cases failed
      rfl

theorem complains_of_scoresIn {files : Directory} {path : String} {f : Fault}
    (failed : scoresIn files path = .error f) :
  complainsOfInput f = true
  := by
  rw [scoresIn] at failed
  obtain failed | ⟨cs, -, failed⟩ := bind_eq_error.mp failed
  · exact complains_of_textAt failed
  · split at failed
    · cases failed
    · cases failed
      rfl
    · cases failed
      rfl

theorem complains_of_textFor {f : Fault} (failed : textFor world.files s = .error (.fault f)) :
  complainsOfInput f = true
  := by
  rw [textFor] at failed
  split at failed
  · cases failed
  · split at failed
    · cases failed
    · rename_i unreadable
      cases failed
      exact complains_of_textAt unreadable
  · cases failed

/-- The faults of loading that are not documented are not shown. -/
theorem complainsOfCodex_of_escapes {files : Directory} {source : Codex.Source} {f : Fault}
    (escapes : Codex.Escapes files source f) :
  complainsOfCodex f = false
  := by
  cases escapes with
  | nulInPath _ => rfl
  | undecodable _ _ => rfl
  | misspelt _ _ misspells => cases misspells <;> rfl
  | overtaxed _ _ overtaxes =>
    obtain ⟨e, -, rfl⟩ := overtaxes
    cases e <;> rfl

/-! ### Settings of a run -/

/-- The draft of a run is beyond the format when its scores are and its citation override is one. -/
theorem overflows_draft_iff {v : Value} :
  (s.draft c v).Overflows ↔ (∃ o, CitationOverride.parse s.citation = .ok o)
    ∧ ∃ es, v.entries? = some es ∧ Overflows es
  := by
  constructor
  · rintro ⟨-, -, citation, -, scores⟩
    exact ⟨citation, scores⟩
  · rintro ⟨citation, scores⟩
    exact ⟨⟨_, parse_tier_name _⟩, ⟨_, parse_mode_name _⟩, citation, ⟨none, rfl⟩, scores⟩

/-- The handshake of a run is built, or its citation override is rejected. -/
theorem rejected_of_handshake (wellFormed : c.WellFormed) {e : Fault}
    (failed : s.handshake c = .error e) :
  ∃ r, e = .rejected r
  := by
  apply Handshake.rejected_of_build wellFormed _ _ failed
  · intro name mem
    have known : ∀ name ∈ (["mode", "tier", "cite_policy", "reflex_profile"] : List Text),
        Handshake.optionFault? name = none := by decide +kernel
    exact known name mem
  · have named : ∀ name ∈ ["mode", "tier", "cite_policy"],
        (Text.ofString name == Text.ofString "reflex_profile") = false := by decide +kernel
    exact ⟨s.profileFor c, by simp [Entries.getD, Entries.get?, named]⟩

/-! ### Detectors of a run -/

/-- The detectors of a run are there, or its citation override is rejected. -/
theorem rejected_of_detectors (wellFormed : c.WellFormed) {e : Fault}
    (failed : s.detectors c world = .error e) :
  ∃ r, e = .rejected r
  := by
  rw [Settings.detectors] at failed
  split at failed
  · obtain failed | ⟨d, -, failed⟩ := bind_eq_error.mp failed
    · obtain failed | ⟨h, -, failed⟩ := bind_eq_error.mp failed
      · exact rejected_of_handshake wellFormed failed
      · cases failed
    · cases failed
  · cases failed

/-- Whatever the model answers, the detectors of a run have plain findings only. -/
theorem isPlain_runDetectors {ds : List Detector} (given : s.detectors c world = .ok ds)
    (text : String) :
  ∀ f ∈ runDetectors text ds, f.IsPlain
  := by
  have lexical : ∀ f ∈ runDetectors text (LexicalDetector.registered.map LexicalDetector.detector),
      f.IsPlain := by
    intro f mem
    obtain ⟨d, mem, found⟩ := mem_runDetectors.mp mem
    obtain ⟨l, registered, rfl⟩ := List.mem_map.mp mem
    exact LexicalDetector.isPlain_registered registered text.toList f found
  rw [Settings.detectors] at given
  split at given
  · obtain ⟨scorer, asked, given⟩ := bind_eq_ok.mp given
    cases given
    obtain ⟨h, -, asked⟩ := bind_eq_ok.mp asked
    cases asked
    rw [runDetectors, List.flatMap_append, List.forall_mem_append]
    constructor
    · exact lexical
    · rw [List.flatMap_singleton]
      apply Scorer.isPlain_contribution
      intro e mem
      obtain ⟨r, -, rfl⟩ := List.mem_map.mp mem
      exact ⟨_, rfl⟩
  · cases given
    exact lexical

/-! ### Reports of a run -/

theorem yields_report (c : Codex) (s : Settings) (o : Outcome) (findings : Option (List Finding))
    (plain : ∀ fs ∈ findings, ∀ f ∈ fs, f.IsPlain) :
  Yields (fun _ => True) (report c s o findings)
  := by
  rw [report]
  split
  · apply yields_map (Report.yields_json o plain)
    rintro t -
    trivial
  · apply Report.yields_text
    cases findings with
    | none => simp
    | some fs => exact plain fs rfl

/-! ### Runs with scores from a file -/

variable {path : String} {v : Value}

theorem runWith_of_unreadable (asked : nonempty? s.scores = some path) {f : Fault}
    (failed : scoresIn world.files path = .error f) :
  (runWith world s c).1 = .ok (.complained f)
  := by
  simp [runWith, outcomeOf, asked, evaluateFile, failed, Stop.conclusion,
    complains_of_scoresIn failed]

/-- A run with scores evaluates the draft of its settings. -/
theorem runWith_of_scores (asked : nonempty? s.scores = some path)
    (given : scoresIn world.files path = .ok v) :
  (runWith world s c).1 = match c.evaluate (s.draft c v) with
    | .ok o => (report c s o none).map .reported
    | .error f => (Stop.fault f).conclusion complainsOfInput
  := by
  rw [← Codex.evaluateWith_fst c (s.draft c v) s.sink world.now []]
  simp only [runWith, outcomeOf, asked, evaluateFile, given]
  obtain ⟨answer, log⟩ := c.evaluateWith (s.draft c v) s.sink world.now []
  cases answer <;> rfl

/-! ### Runs with a text -/

variable {text : String}

theorem runWith_of_stop (unasked : nonempty? s.scores = none) {stop : Stop}
    (failed : textFor world.files s = .error stop) :
  (runWith world s c).1 = stop.conclusion complainsOfInput
  := by
  simp only [runWith, outcomeOf, unasked, analyzeText, failed]

theorem runWith_of_detectors (unasked : nonempty? s.scores = none)
    (given : textFor world.files s = .ok text) {f : Fault}
    (failed : s.detectors c world = .error f) :
  (runWith world s c).1 = (Stop.fault f).conclusion complainsOfInput
  := by
  simp only [runWith, outcomeOf, unasked, analyzeText, given, failed]

/-- A run with a text analyzes it with its detectors. -/
theorem runWith_of_text (unasked : nonempty? s.scores = none)
    (given : textFor world.files s = .ok text) {ds : List Detector}
    (detectors : s.detectors c world = .ok ds) :
  (runWith world s c).1
    = match (c.analyze text ds (s.draft c (.map [])) s.sink world.now []).1 with
      | .ok (o, findings) => (report c s o (some findings)).map .reported
      | .error f => (Stop.fault f).conclusion complainsOfInput
  := by
  simp only [runWith, outcomeOf, unasked, analyzeText, given, detectors]
  obtain ⟨answer, log⟩ := c.analyze text ds (s.draft c (.map [])) s.sink world.now []
  cases answer <;> rfl

/-! ### Endings -/

variable {f : Fault}

/-- The arguments ask for settings, and there is a codex for them. -/
structure Opens (world : World) (arguments : List String) (s : Settings) (c : Codex) : Prop where
  read : Settings.read arguments = .ok s
  loaded : Codex.load world.files (Codex.chooseSource s.codex world.codexPath) = .ok c

/-- What breaks a run. -/
inductive Breaks (world : World) (arguments : List String) : Fault → Prop where
  /-- The codex cannot be loaded, for a reason that is not documented. -/
  | codex {s : Settings} {f : Fault} (read : Settings.read arguments = .ok s)
      (failed : Codex.load world.files (Codex.chooseSource s.codex world.codexPath) = .error f)
      (escapes : Codex.Escapes world.files (Codex.chooseSource s.codex world.codexPath) f) :
    Breaks world arguments f
  /-- The file of scores holds one beyond the format, and what is looked at before it passes. -/
  | score {s : Settings} {c : Codex} {path : String} {v : Value} {es : Entries Scalar Value}
      (opens : Opens world arguments s c) (asked : nonempty? s.scores = some path)
      (given : scoresIn world.files path = .ok v)
      (citation : ∃ o, CitationOverride.parse s.citation = .ok o)
      (entries : v.entries? = some es) (overflows : Overflows es) :
    Breaks world arguments .tooLarge

/-- What a run complains about. -/
inductive Complains (world : World) (arguments : List String) : Fault → Prop where
  /-- The codex is invalid or cannot be read. -/
  | codex {s : Settings} {f : Fault} (read : Settings.read arguments = .ok s)
      (failed : Codex.load world.files (Codex.chooseSource s.codex world.codexPath) = .error f)
      (documented : f.IsDocumented) : Complains world arguments f
  /-- There are no scores in the file. -/
  | scores {s : Settings} {c : Codex} {path : String} {f : Fault} (opens : Opens world arguments s c)
      (asked : nonempty? s.scores = some path)
      (failed : scoresIn world.files path = .error f) : Complains world arguments f
  /-- The request for the scores is rejected. -/
  | request {s : Settings} {c : Codex} {path : String} {v : Value} {r : Rejection}
      (opens : Opens world arguments s c) (asked : nonempty? s.scores = some path)
      (given : scoresIn world.files path = .ok v)
      (rejected : (s.draft c v).validate = .error (.rejected r)) :
    Complains world arguments (.rejected r)
  /-- There is no text in the file. -/
  | text {s : Settings} {c : Codex} {f : Fault} (opens : Opens world arguments s c)
      (unasked : nonempty? s.scores = none)
      (failed : textFor world.files s = .error (.fault f)) : Complains world arguments f
  /-- The handshake for the model is rejected. -/
  | handshake {s : Settings} {c : Codex} {text : String} {r : Rejection}
      (opens : Opens world arguments s c) (unasked : nonempty? s.scores = none)
      (given : textFor world.files s = .ok text)
      (rejected : s.detectors c world = .error (.rejected r)) :
    Complains world arguments (.rejected r)
  /-- The request for the text is rejected. -/
  | analysis {s : Settings} {c : Codex} {text : String} {ds : List Detector} {r : Rejection}
      (opens : Opens world arguments s c) (unasked : nonempty? s.scores = none)
      (given : textFor world.files s = .ok text) (detectors : s.detectors c world = .ok ds)
      (rejected : (s.draft c (.map [])).validate = .error (.rejected r)) :
    Complains world arguments (.rejected r)

/-- How a run ends that the reader of the command line ends. -/
inductive Exits (world : World) (arguments : List String) : Conclusion → Prop where
  | helped (read : Settings.read arguments = .error .help) : Exits world arguments .helped
  | misread {m : Misread} (read : Settings.read arguments = .error (.misread m)) :
    Exits world arguments (.misread m)
  /-- There is nothing to analyze. -/
  | idle {s : Settings} {c : Codex} {m : Misread} (opens : Opens world arguments s c)
      (unasked : nonempty? s.scores = none)
      (failed : textFor world.files s = .error (.misread m)) : Exits world arguments (.misread m)

/-! ### What there is to a run -/

theorem Opens.run (opens : Opens world arguments s c) :
  run world arguments = runWith world s c
  := by
  simp only [CommandLine.run, opens.read, runSettings, opens.loaded]

theorem run_of_unloaded (read : Settings.read arguments = .ok s)
    (failed : Codex.load world.files (Codex.chooseSource s.codex world.codexPath) = .error f) :
  (run world arguments).1 = (Stop.fault f).conclusion complainsOfCodex
  := by
  simp only [run, read, runSettings, failed]

/-- What breaks a run is what the run ends in. -/
theorem Breaks.run (breaks : Breaks world arguments f) :
  (run world arguments).1 = .error f
  := by
  cases breaks with
  | codex read failed escapes =>
    rw [run_of_unloaded read failed, Stop.conclusion, complainsOfCodex_of_escapes escapes]
    rfl
  | score opens asked given citation entries overflows =>
    rename_i s c path v es
    have overflows : (s.draft c v).Overflows :=
      overflows_draft_iff.mpr ⟨citation, es, entries, overflows⟩
    have failed : c.evaluate (s.draft c v) = .error .tooLarge :=
      bind_eq_error.mpr (.inl overflows.validate)
    rw [opens.run, runWith_of_scores asked given, failed]
    rfl

/-- A run complains about what there is to complain about. -/
theorem Complains.run (complains : Complains world arguments f) :
  (run world arguments).1 = .ok (.complained f)
  := by
  cases complains with
  | codex read failed documented =>
    obtain ⟨problems, -, rfl⟩ := documented
    rw [run_of_unloaded read failed]
    rfl
  | scores opens asked failed => rw [opens.run, runWith_of_unreadable asked failed]
  | request opens asked given rejected =>
    rename_i s c path v r
    have failed : c.evaluate (s.draft c v) = .error (.rejected r) :=
      bind_eq_error.mpr (.inl rejected)
    rw [opens.run, runWith_of_scores asked given, failed]
    rfl
  | text opens unasked failed =>
    rw [opens.run, runWith_of_stop unasked failed, Stop.conclusion, complains_of_textFor failed]
    rfl
  | handshake opens unasked given rejected =>
    rw [opens.run, runWith_of_detectors unasked given rejected]
    rfl
  | analysis opens unasked given detectors rejected =>
    rename_i s c text ds r
    obtain ⟨v, loaded⟩ := Codex.exists_of_load opens.loaded
    have inRange : ∀ f ∈ runDetectors text ds, f.IsInRange := fun f mem =>
      (isPlain_runDetectors detectors text f mem).isInRange
    have failed : (c.analyze text ds (s.draft c (.map [])) s.sink world.now []).1
        = .error (.rejected r) :=
      (Codex.analyze_error_iff s.sink world.now [] loaded inRange).mpr rejected
    rw [opens.run, runWith_of_text unasked given detectors, failed]
    rfl

theorem Exits.run {ending : Conclusion} (exits : Exits world arguments ending) :
  (run world arguments).1 = .ok ending
  := by
  cases exits with
  | helped read => simp only [CommandLine.run, read]
  | misread read => simp only [CommandLine.run, read]
  | idle opens unasked failed =>
    rw [opens.run, runWith_of_stop unasked failed]
    rfl

/-! ### Every run ends -/

/-- A run breaks, complains, exits or reports. -/
def Ends (world : World) (arguments : List String) : Prop :=
  (∃ f, Breaks world arguments f) ∨ (∃ f, Complains world arguments f)
    ∨ (∃ ending, Exits world arguments ending)
    ∨ ∃ t, (run world arguments).1 = .ok (.reported t)

/-- A run that has its scores reports, if its request is not rejected and no score is beyond the
format. -/
theorem ends_of_scores (opens : Opens world arguments s c) (asked : nonempty? s.scores = some path) :
  Ends world arguments
  := by
  obtain ⟨document, loaded⟩ := Codex.exists_of_load opens.loaded
  cases given : scoresIn world.files path with
  | error f => exact .inr (.inl ⟨f, .scores opens asked given⟩)
  | ok v =>
    have ended := runWith_of_scores (c := c) asked given
    cases evaluated : c.evaluate (s.draft c v) with
    | ok o =>
      obtain ⟨t, reported, -⟩ := yields_report c s o none (by simp)
      rw [evaluated, ← opens.run] at ended
      exact .inr (.inr (.inr ⟨t, by simp only [ended, reported, Except.map]⟩))
    | error f =>
      obtain ⟨failed, ⟨r, rfl⟩ | ⟨rfl, overflows⟩⟩ := Codex.rejected_or_of_evaluate loaded evaluated
      · exact .inr (.inl ⟨_, .request opens asked given failed⟩)
      · obtain ⟨citation, es, entries, overflows⟩ := overflows_draft_iff.mp overflows
        exact .inl ⟨_, .score opens asked given citation entries overflows⟩

/-- A run that has its text reports, if its request is not rejected. -/
theorem ends_of_text (opens : Opens world arguments s c) (unasked : nonempty? s.scores = none) :
  Ends world arguments
  := by
  obtain ⟨document, loaded⟩ := Codex.exists_of_load opens.loaded
  cases given : textFor world.files s with
  | error stop =>
    cases stop with
    | misread m => exact .inr (.inr (.inl ⟨_, .idle opens unasked given⟩))
    | fault f => exact .inr (.inl ⟨f, .text opens unasked given⟩)
  | ok text =>
    cases detectors : s.detectors c world with
    | error f =>
      obtain ⟨r, rfl⟩ := rejected_of_detectors (Codex.wellFormed_of_loaded loaded) detectors
      exact .inr (.inl ⟨_, .handshake opens unasked given detectors⟩)
    | ok ds =>
      have plain := isPlain_runDetectors detectors text
      have ended := runWith_of_text unasked given detectors
      cases analyzed : (c.analyze text ds (s.draft c (.map [])) s.sink world.now []).1 with
      | ok found =>
        obtain ⟨o, findings⟩ := found
        obtain rfl := Codex.findings_of_analyze analyzed
        obtain ⟨t, reported, -⟩ :=
          yields_report c s o (some (runDetectors text ds)) (by simpa using plain)
        rw [analyzed, ← opens.run] at ended
        exact .inr (.inr (.inr ⟨t, by simp only [ended, reported, Except.map]⟩))
      | error f =>
        have failed := (Codex.analyze_error_iff s.sink world.now [] loaded
          fun f mem => (plain f mem).isInRange).mp analyzed
        obtain ⟨r, rfl⟩ := rejected_of_unscored failed
        exact .inr (.inl ⟨_, .analysis opens unasked given detectors failed⟩)

theorem ends (world : World) (arguments : List String) :
  Ends world arguments
  := by
  cases read : Settings.read arguments with
  | error halt =>
    cases halt with
    | help => exact .inr (.inr (.inl ⟨_, .helped read⟩))
    | misread m => exact .inr (.inr (.inl ⟨_, .misread read⟩))
  | ok s =>
    obtain ⟨c, loaded⟩ | ⟨f, failed, documented | escapes⟩ :=
      Codex.loads_load world.files (Codex.chooseSource s.codex world.codexPath)
    · cases asked : nonempty? s.scores with
      | some path => exact ends_of_scores ⟨read, loaded⟩ asked
      | none => exact ends_of_text ⟨read, loaded⟩ asked
    · exact .inr (.inl ⟨f, .codex read failed documented⟩)
    · exact .inl ⟨f, .codex read failed escapes⟩

theorem breaks_of_run (broken : (run world arguments).1 = .error f) :
  Breaks world arguments f
  := by
  obtain ⟨f', breaks⟩ | ⟨f', complains⟩ | ⟨ending, exits⟩ | ⟨t, reported⟩ := ends world arguments
  · obtain rfl : f' = f := by simpa [breaks.run] using broken
    exact breaks
  · simp [complains.run] at broken
  · simp [exits.run] at broken
  · simp [reported] at broken

theorem complains_of_run (complained : (run world arguments).1 = .ok (.complained f)) :
  Complains world arguments f
  := by
  obtain ⟨f', breaks⟩ | ⟨f', complains⟩ | ⟨ending, exits⟩ | ⟨t, reported⟩ := ends world arguments
  · simp [breaks.run] at complained
  · obtain rfl : f' = f := by simpa [complains.run] using complained
    exact complains
  · obtain rfl : ending = .complained f := by simpa [exits.run] using complained
    cases exits
  · simp [reported] at complained

theorem exits_of_run {ending : Conclusion} (ended : (run world arguments).1 = .ok ending)
    (unshown : ending = .helped ∨ ∃ m, ending = .misread m) :
  Exits world arguments ending
  := by
  obtain ⟨f, breaks⟩ | ⟨f, complains⟩ | ⟨ending', exits⟩ | ⟨t, reported⟩ := ends world arguments
  · simp [breaks.run] at ended
  · obtain rfl : .complained f = ending := by simpa [complains.run] using ended
    simp at unshown
  · obtain rfl : ending' = ending := by simpa [exits.run] using ended
    exact exits
  · obtain rfl : .reported t = ending := by simpa [reported] using ended
    simp at unshown

/-- The bytes of a file of lines. -/
def bytesOfLines (lines : List String) : List UInt8 :=
  lines.flatMap fun line => line.toUTF8.toList ++ [10]

/-- A small codex. -/
def smallCodex : List UInt8 := bytesOfLines [
  "codex_version: 1.0.0",
  "tiers:",
  " low: \x7bmin_confidence: 0.5,",
  "  citation_score_floor: 0.9\x7d",
  " medium: \x7bmin_confidence: 0.5,",
  "  citation_score_floor: 0.9\x7d",
  " high: \x7bmin_confidence: 0.75,",
  "  citation_score_floor: 0.9\x7d",
  "modes:",
  " \x7bdirect: \x7b\x7d, careful: \x7b\x7d, recap: \x7b\x7d\x7d",
  "reflexes: \x7bclaim: \x7btrigger_at: 0.6\x7d\x7d",
  "profiles: \x7bdefault: [claim]\x7d",
  "context_decay:",
  " \x7bmax_turns_without_recap: 20,",
  "  max_tokens_since_recap: 8000\x7d"]

/-- A world of a codex and a file of scores, and nothing else. -/
def smallWorld (codex scores : List UInt8) : World where
  files := fun path =>
    if path == "codex.yaml" then .ok codex
    else if path == "scores.json" then .ok scores
    else .error .missing
  codexPath := none
  model := none
  key := none
  connect := fun _ => none
  now := .null

set_option maxRecDepth 8000 in
theorem isOk_smallCodex :
  (Codex.ofBytes "codex.yaml" smallCodex).isOk = true
  := by decide +kernel

/-- The settings that ask for the files of a small world. -/
def smallSettings : Settings :=
  { Settings.default with codex := some "codex.yaml", scores := some "scores.json" }

/-- The arguments that ask for the files of a small world. -/
def smallArguments : List String := ["--codex", "codex.yaml", "--scores", "scores.json"]

theorem read_smallArguments :
  Settings.read smallArguments = .ok smallSettings
  := rfl

theorem exists_opens (scores : List UInt8) :
  ∃ c, Opens (smallWorld smallCodex scores) smallArguments smallSettings c
  := by
  obtain ⟨c, loaded⟩ := exists_of_isOk isOk_smallCodex
  exact ⟨c, read_smallArguments, loaded⟩

/-- A file of one score that is beyond the format. -/
def tooLargeScores : List UInt8 :=
  "\x7b\"claim\": 1".toUTF8.toList ++ List.replicate 400 48 ++ [125]

end ReflexPolicy.CommandLine
