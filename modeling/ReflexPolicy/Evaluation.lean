import ReflexPolicy.Policy.Basic
import ReflexPolicy.Outcome
import ReflexPolicy.Request.Wire
import ReflexPolicy.Telemetry

/-!
# Evaluation

An evaluation looks at the scores of a request in the order of a profile.  The first reflex that
blocks ends it: `Scan` holds the reflexes that fired before it.  A blocked outcome demands
citations and an omission scan and leaves context decay aside; otherwise the codex decides each of
them.  The event that announces the outcome is part of the result and cannot change it.
-/

namespace ReflexPolicy

/-- What came of looking at reflexes in order. -/
structure Scan where
  fired : List Hit
  blockedBy : Option Hit

/-- The reflexes that fire, in order, up to the first one that blocks. -/
def scan (judge : Text → Binary64 → Verdict) (score : Text → Binary64) :
    List Text → Scan
  | [] => { fired := [], blockedBy := none }
  | id :: rest => match judge id (score id) with
    | .block => { fired := [], blockedBy := some ⟨id, score id⟩ }
    | .fire =>
      let after := scan judge score rest
      { after with fired := ⟨id, score id⟩ :: after.fired }
    | .silent => scan judge score rest

namespace Request

/-- The score of a reflex, zero when the request has none. -/
def score (r : Request) (id : Text) : Binary64 := Entries.getD r.scores id 0

end Request

namespace Outcome

/-- The event that announces an outcome. -/
def announcement (o : Outcome) : Event :=
  match o.blockedBy with
  | some h =>
    { name := "analysis.blocked"
      payload := [(.text "reflex_id", .text h.id), (.text "score", .float h.score)] }
  | none =>
    { name := "analysis.complete"
      payload := [(.text "fired_count", .int o.fired.length),
        (.text "need_citation", .bool o.needCitation),
        (.text "run_omission_scan", .bool o.runOmissionScan),
        (.text "context_expired", .bool o.contextExpired)] }

end Outcome

namespace Codex

/-- The name of the profile that an evaluation uses: the one asked for, if it is there. -/
def usedProfile (c : Codex) (name : Text) : Text :=
  if c.hasProfile (.text name) then name else defaultProfile

/-- The outcome of a request that has been checked. -/
def outcome (c : Codex) (r : Request) : Except Fault Outcome := do
  let minConfidence ← c.minConfidence r.tier r.mode
  let profile ← c.profileFor (.text r.profile)
  let found := scan (fun id s => c.judge (.text id) r.tier (.float s)) r.score profile.order
  let base : Outcome :=
    { minConfidence := minConfidence
      fired := found.fired
      blockedBy := found.blockedBy
      needCitation := true
      runOmissionScan := true
      contextExpired := false
      codexVersion := c.version
      profile := c.usedProfile r.profile }
  match found.blockedBy with
  | some _ => return base
  | none =>
    let top := topScore (found.fired.map Hit.score)
    let citation ← c.needsCitation r.tier (.float top) r.externalClaim r.citation
    let omission ← c.runsOmissionScan r.tier r.omission
    return { base with
      needCitation := citation
      runOmissionScan := omission
      contextExpired := c.isExpired (.whole r.age.turns) (.whole r.age.tokens) }

/-- The outcome of a draft. -/
def evaluate (c : Codex) (d : Draft) : Except Fault Outcome := do
  c.outcome (← d.validate)

/-- The outcome of a draft, and the state of a sink after the announcement. -/
def evaluateWith {σ : Type} (c : Codex) (d : Draft) (sink : Option (Sink σ)) (now : Value)
    (state : σ) : Except Fault Outcome × σ :=
  match c.evaluate d with
  | .error e => (.error e, state)
  | .ok o =>
    (.ok o, emit c sink o.announcement.name (.map o.announcement.payload) now state)

/-- The outcome of a request on the wire, and the state of a sink after the announcement. -/
def evaluateWire {σ : Type} (c : Codex) (v : Value) (sink : Option (Sink σ)) (now : Value)
    (state : σ) : Except Fault Outcome × σ :=
  match Draft.ofValue v with
  | .error r => (.error (.rejected r), state)
  | .ok d => c.evaluateWith d sink now state

end Codex

end ReflexPolicy
