import ReflexPolicy.Proofs.CommandLine.Conclusion
import ReflexPolicy.Proofs.CommandLine.Spelling

/-!
# Scores from a file and requests on the wire

A run that is given a file of scores comes to what the request on the wire comes to that its
settings spell out, with the defaults of the codex for a tier, a mode and a profile that are not
given.  It reports the outcome as JSON, and complains exactly where the request is rejected.
-/

namespace ReflexPolicy.CommandLine

/-- The request on the wire that the settings ask for, for some scores. -/
def Settings.wire (s : Settings) (c : Codex) (scores : Value) : Value :=
  let defaults := c.handshakeDefaults
  let profile := (s.profile.filter (· != "")).map Text.ofString
  .ofFields [("tier", .text (s.tier.getD defaults.tier).name),
    ("mode", .text (s.mode.getD defaults.mode).name),
    ("scores", scores),
    ("contextAge", .ofFields [("turnsSinceRecap", s.turns), ("tokensSinceRecap", s.tokens)]),
    ("externalClaim", .bool s.externalClaim),
    ("citationOverride", s.citation),
    ("profile", .text (profile.getD defaults.profile))]

/-- The end of a run agrees with the answer to a request on the wire: the run shows the wire form of
the outcome as JSON, complains where the request is rejected and nowhere else, and breaks only where
the evaluation of the request does. -/
structure Agrees (ended : Except Fault Conclusion) (answer : Except Fault Outcome) : Prop where
  reports : ∀ o, answer = .ok o → ∃ t ending, Json.write Json.Layout.pages o.wire = .ok t
    ∧ ended = .ok ending ∧ ending.code = 0 ∧ ending.output = Text.ofString t ++ "\n"
  complains : ∀ r, answer = .error (.rejected r) → ∃ ending, ended = .ok ending
    ∧ ending.code = 2 ∧ ending.complaint = "error: " ++ r.message ++ "\n"
  rejected : ∀ ending, ended = .ok ending → ending.code = 2 → ∃ r, answer = .error (.rejected r)
  breaks : ∀ f, ended = .error f → answer = .error f

variable {s : Settings} {c : Codex} {v : Value}

/-- The request on the wire writes the draft of the run. -/
theorem ofValue_wire (s : Settings) (c : Codex) (v : Value) :
  Draft.ofValue (s.wire c v) = .ok (s.draft c v)
  := by
  simp only [Draft.ofValue, Settings.wire, Value.ofFields, List.map_cons, List.map_nil,
    Draft.ofEntries, spellings, pick?, Value.field?, Entries.get?, Scalar.beq_names]
  simp only [reduceCtorEq, String.reduceEq, decide_true, decide_false, if_true]
  rfl

/-- What comes of the request on the wire is what comes of the draft of the run. -/
theorem evaluateWire_wire {σ : Type} (s : Settings) (c : Codex) (v : Value) (sink : Option (Sink σ))
    (now : Value) (state : σ) :
  (c.evaluateWire (s.wire c v) sink now state).1 = c.evaluate (s.draft c v)
  := by
  rw [Codex.evaluateWire, ofValue_wire]
  apply Codex.evaluateWith_fst

variable {world : World} {arguments : List String} {path : String}

/-- The three things that come of a run for the scores of a file as JSON, and of the request on the
wire. -/
theorem run_cases {σ : Type} (sink : Option (Sink σ)) (now : Value) (state : σ)
    (opens : Opens world arguments s c) (json : s.json = true)
    (asked : nonempty? s.scores = some path) (given : scoresIn world.files path = .ok v) :
  (∃ o t, (c.evaluateWire (s.wire c v) sink now state).1 = .ok o
      ∧ Json.write Json.Layout.pages o.wire = .ok t
      ∧ (run world arguments).1 = .ok (.reported (Text.ofString t)))
    ∨ (∃ r, (c.evaluateWire (s.wire c v) sink now state).1 = .error (.rejected r)
      ∧ (run world arguments).1 = .ok (.complained (.rejected r)))
    ∨ (c.evaluateWire (s.wire c v) sink now state).1 = .error .tooLarge
      ∧ (run world arguments).1 = .error .tooLarge
  := by
  obtain ⟨document, loaded⟩ := Codex.exists_of_load opens.loaded
  rw [evaluateWire_wire, opens.run, runWith_of_scores asked given]
  cases evaluated : c.evaluate (s.draft c v) with
  | ok o =>
    obtain ⟨t, written, reported⟩ := Report.json_eq_ok o
    have shown : report c s o none = .ok (Text.ofString t) := by
      simp only [report, json, if_true, reported, Except.map]
    exact .inl ⟨o, t, rfl, written, by simp only [shown, Except.map]⟩
  | error f =>
    obtain ⟨-, ⟨r, rfl⟩ | ⟨rfl, -⟩⟩ := Codex.rejected_or_of_evaluate loaded evaluated
    · exact .inr (.inl ⟨r, rfl, rfl⟩)
    · exact .inr (.inr ⟨rfl, rfl⟩)

/-- A command line for a tier, a claim about the outside world, and JSON. -/
def smallWishes : List Wish :=
  [.give .codex "--codex" "codex.yaml", .give .scores "--scores" "scores.json",
    .give .tier "--tier" "high", .turnOn .externalClaim "--external-claim", .turnOn .json "--json"]

/-- What they ask for. -/
def wishedSettings : Settings :=
  { smallSettings with tier := some .high, externalClaim := true, json := true }

theorem read_smallWishes :
  Settings.read (smallWishes.flatMap Wish.arguments) = .ok wishedSettings
  := by
  have spelled : ∀ w ∈ smallWishes, w.IsSpelled := by decide +kernel
  rw [read_wishes spelled]
  rfl

/-- A file of one score. -/
def smallScores : List UInt8 := "\x7b\"claim\": 0.75\x7d".toUTF8.toList

end ReflexPolicy.CommandLine
