import DecodeBench.Proofs.Trial.Phases

/-! A trial as a list of stages, fixed before it starts: what it decodes, and when it looks at the
clock, does not depend on any answer, except that a decode that fails is the end of it. -/

namespace DecodeBench.Trial

inductive Stage where
  | clear
  | share (target : Nat) (prompt : Span)
  | now
  | decode (w : Window)

/-- Goes through the stages in order. The answer is what the clock showed, after what it showed
before, or the failure of a decode. -/
def follow (limit : Nat) (shown : List Nat) : List Stage → Plan (Except Failure (List Nat))
  | [] => .done (.ok shown)
  | .clear :: stages => .ask .clear fun _ => follow limit shown stages
  | .share target prompt :: stages => .ask (.share 0 target prompt) fun _ => follow limit shown stages
  | .now :: stages => .ask .now fun t => follow limit (shown ++ [t]) stages
  | .decode w :: stages => (decodeInChunks w limit).bind fun
    | .ok _ => follow limit shown stages
    | .error e => .done (.error e)

def Follows {α : Type} (limit : Nat) (shown : List Nat) (stages : List Stage) (answer : List Nat → α) (x : Step α)
    (b : Batch) : Prop :=
  x.outcome b = (follow limit shown stages).bind fun r => .done (r.map answer)

section Rules

variable {α : Type} {limit : Nat} {shown : List Nat} {stages : List Stage} {answer : List Nat → α} {b b' : Batch}
  {f : Unit → Step α}

lemma follows_pure (a : α) (h : answer shown = a) : Follows limit shown [] answer (pure a) b := by
  subst h
  rfl

lemma follows_clear (h : Follows limit shown stages answer (f ()) b) :
    Follows limit shown (.clear :: stages) answer (Step.call .clear >>= f) b :=
  congrArg (Plan.ask .clear) (funext fun _ => h)

lemma follows_share (target : Nat) (prompt : Span) (h : Follows limit shown stages answer (f ()) b) :
    Follows limit shown (.share target prompt :: stages) answer (Step.call (.share 0 target prompt) >>= f) b :=
  congrArg (Plan.ask (.share 0 target prompt)) (funext fun _ => h)

lemma follows_now {g : Nat → Step α} (h : ∀ t, Follows limit (shown ++ [t]) stages answer (g t) b) :
    Follows limit shown (.now :: stages) answer (Step.call .now >>= g) b :=
  congrArg (Plan.ask .now) (funext h)

lemma follows_done {x : Step Unit} (hx : x.plan b = .done (.ok (), b')) (h : Follows limit shown stages answer (f ()) b') :
    Follows limit shown stages answer (x >>= f) b :=
  (Step.outcome_bind_of_done hx).trans h

lemma follows_enter {phase : Phase} (h : Follows limit shown stages answer (f ()) b) :
    Follows limit shown stages answer (Step.enter phase >>= f) b := h

lemma follows_submitBatch (h : Follows limit shown stages answer (f ()) b) :
    Follows limit shown (.decode b.window :: stages) answer (Step.submitBatch limit >>= f) b := by
  rw [Follows, Step.outcome_bind_submitBatch, follow, Plan.bind_assoc]
  congr 1
  funext r
  cases r with
  | ok => exact h
  | error => rfl

lemma follows_branch (prompt : Span) (count first : Nat) (h : Follows limit shown stages answer (f ()) b) :
    Follows limit shown ((List.range' first count).map (.share · prompt) ++ stages) answer
      (branch prompt count first >>= f) b := by
  induction count generalizing first with
  | zero => exact h
  | succ count ih =>
    rw [branch, bind_assoc]
    exact follows_share first prompt (ih (first + 1))

end Rules

def stepRequests (p : GridPoint) (o : TrialOptions) (generated : Nat) : List Request :=
  (List.range p.parallelism).map (p.nextRequest o generated)

def promptRequests (p : GridPoint) (o : TrialOptions) : List Request :=
  let requests := (List.range (p.promptLength * p.promptCopies o.shared)).map (p.promptRequest o)
  requests.modify (requests.length - 1) fun r => { r with wantsLogits := true }

section Rules

variable {α : Type} {shown : List Nat} {stages : List Stage} {answer : List Nat → α} {b : Batch}
  {f : Unit → Step α} {p : GridPoint} {o : TrialOptions}

lemma follows_generate {count generated : Nat} (hroom : 0 < count → p.parallelism ≤ b.capacity)
    (hids : 1 ≤ b.window.stride) (h : ∀ b', b.Alike b' → Follows o.chunkSize shown stages answer (f ()) b') :
    Follows o.chunkSize shown
      ((List.range' generated count).map (fun i => .decode (.ofList b.window.stride (stepRequests p o i))) ++ stages)
      answer (generate Step.enter p o count generated >>= f) b := by
  induction count generalizing generated b with
  | zero => exact h b (.refl b)
  | succ count ih =>
    have hfill : b.clear.fill (p.nextRequest o generated) p.parallelism =
        (.ok (), b.holding (stepRequests p o generated)) :=
      Batch.fill_clear (hroom (Nat.succ_pos count)) fun _ => hids
    -- The next step starts from what this one leaves in the batch, so only what the batch can take matters.
    have halike := b.alike_holding (stepRequests p o generated)
    simp only [generate, bind_assoc]
    apply follows_enter
    apply follows_done (Step.plan_clearBatch b)
    apply follows_done ((Step.plan_fill ..).trans (congrArg Plan.done hfill))
    apply follows_submitBatch
    rw [← halike.stride]
    apply ih
    · intro _
      rw [halike.capacity]
      exact hroom (Nat.succ_pos count)
    · rw [halike.stride]
      exact hids
    · exact fun b' hb' => h b' (halike.trans hb')

end Rules

def promptWindow (o : TrialOptions) (p : GridPoint) (stride : Nat) : Window :=
  let prompt : Window := .ofList stride
    ((List.range (p.promptLength * p.promptCopies o.shared)).map (p.promptRequest o))
  prompt.setOutput (prompt.size - 1) true

def shareStages (o : TrialOptions) (p : GridPoint) : List Stage :=
  if o.shared ∧ p.promptLength ≠ 0 then
    (List.range' 1 (p.parallelism - 1)).map (.share · ⟨0, p.promptLength⟩)
  else []

def stepStages (o : TrialOptions) (p : GridPoint) (stride : Nat) : List Stage :=
  (List.range' 0 p.genLength).map fun i => .decode (.ofList stride (stepRequests p o i))

def stages (o : TrialOptions) (p : GridPoint) (stride : Nat) : List Stage :=
  [.clear, .now, .decode (promptWindow o p stride)] ++ (shareStages o p ++ ([.now, .now] ++ (stepStages o p stride ++ [.now])))

def measurement (o : TrialOptions) (p : GridPoint) (repeatIndex : Nat) (shown : List Nat) : Measurement :=
  .ofTimings p repeatIndex o.shared (secondsBetween (shown.getD 0 0) (shown.getD 1 0))
    (secondsBetween (shown.getD 2 0) (shown.getD 3 0))

section Rules

variable {o : TrialOptions} {p : GridPoint} {b : Batch}

lemma follows_sharePrompt {α : Type} {limit : Nat} {shown : List Nat} {stages : List Stage} {answer : List Nat → α}
    {f : Unit → Step α} (h : Follows limit shown stages answer (f ()) b) :
    Follows limit shown (shareStages o p ++ stages) answer (sharePrompt Step.enter p o >>= f) b := by
  rw [shareStages, sharePrompt]
  by_cases hs : o.shared = true
  · by_cases hp : p.promptLength = 0
    · simpa [hs, hp] using follows_enter h
    · simp only [hs, hp, if_true, ne_eq, not_false_eq_true, and_self, bind_assoc]
      exact follows_enter (follows_branch _ _ _ h)
  · simpa [hs] using h

theorem measure_follows (repeatIndex : Nat) (hprompt : p.promptLength * p.promptCopies o.shared ≤ b.capacity)
    (hstep : 0 < p.genLength → p.parallelism ≤ b.capacity) (hids : 1 ≤ b.window.stride) :
    Follows o.chunkSize [] (stages o p b.window.stride) (measurement o p repeatIndex)
      (measure Step.enter o p repeatIndex) b := by
  set prompt := (List.range (p.promptLength * p.promptCopies o.shared)).map (p.promptRequest o) with hp
  have hfill : b.clear.fill (p.promptRequest o) (p.promptLength * p.promptCopies o.shared) =
      (.ok (), b.holding prompt) :=
    Batch.fill_clear hprompt fun _ => hids
  have halike : b.Alike (b.holding prompt).wantLast := (b.alike_holding prompt).trans (Batch.alike_wantLast _)
  apply follows_enter
  apply follows_clear
  apply follows_done (Step.plan_clearBatch b)
  apply follows_enter
  apply follows_done ((Step.plan_fill ..).trans (congrArg Plan.done hfill))
  apply follows_done (Step.plan_wantLast _)
  apply follows_enter
  apply follows_now
  intro prefillStart
  apply follows_submitBatch
  apply follows_sharePrompt
  apply follows_now
  intro prefillStop
  apply follows_done (Step.plan_clearBatch _)
  apply follows_now
  intro decodeStart
  rw [stepStages, ← halike.stride]
  refine follows_generate (by rwa [Batch.clear, halike.capacity]) (by rwa [Batch.clear, halike.stride]) fun b' _ => ?_
  apply follows_now
  intro decodeStop
  exact follows_pure _ rfl

end Rules

end DecodeBench.Trial
