/-
  File:      ModalRs/Router/Pairing.lean
  Subject:   Whether a token and its expiry stay together when refreshes run at the same time.

  A refresh writes the token under one lock and its expiry under another. Two that
  run at the same time may each write one of the two last.

  * `HasWritten`, `Quiescent`: a refresh between its two writes, and none.
  * `Paired`: the stored expiry is the one of the stored token.
  * `lastToken`: the token that was written last. `session_jwt`: it is the one in place.
  * `WritesOwn`: the last to write an expiry was the last to write a token, or one with the same
    expiry was.
  * `paired_exactly`: that is exactly when token and expiry stay together.
-/
import ModalRs.Router.Pinning

namespace ModalRs

open ModalRs.Lib

/-- Thread `i` has written a token, and its expiry is what it writes next. -/
def HasWritten (history : List ClientEvent) (i : Nat) (jwt : String) : Prop :=
  (Pool.own i history).getLast? = some ⟨.writeJwt jwt, ()⟩

/-- No refresh is between its two writes. -/
def Quiescent (history : List ClientEvent) : Prop := ∀ i jwt, ¬ HasWritten history i jwt

/-- The stored expiry is the one of the stored token. -/
def Paired (lib : JwtLibs) (s : TaskCommandRouterClient) : Prop := s.jwtExp = expiryOf lib s.jwt

/-- The token that an action writes. -/
def writtenToken : Answered ClientAction ClientAction.Reply → Option String
  | ⟨.writeJwt jwt, _⟩ => some jwt
  | _ => none

def tokenOf : ClientEvent → Option String
  | .start _ _ => none
  | .step _ e => writtenToken e

/-- The token that was written last, by any thread. -/
def lastToken (history : List ClientEvent) : Option String := (history.filterMap tokenOf).getLast?

/-- Whenever a refresh is to write its expiry and no other one is between its writes, the token that
    was written last has this expiry. -/
def WritesOwn (lib : JwtLibs) (c : TaskCommandRouterClient) (moves : List ClientMove) : Prop :=
  ∀ before i answer behind jwt, moves = before ++ .step i answer :: behind →
    HasWritten (session lib c before).history i jwt →
      (∃ j jwt', j ≠ i ∧ HasWritten (session lib c before).history j jwt') ∨
        ∃ last, lastToken (session lib c before).history = some last ∧
          expiryOf lib last = expiryOf lib jwt

section Pairing

variable {lib : JwtLibs} {c : TaskCommandRouterClient} {moves : List ClientMove} {i j : Nat}
  {jwt : String} {history : List ClientEvent}

theorem hasWritten_self {e : Answered ClientAction ClientAction.Reply} :
    HasWritten (history ++ [.step i e]) i jwt ↔ e = ⟨.writeJwt jwt, ()⟩ := by
  rw [HasWritten, Pool.own_append, Pool.own_self, List.getLast?_concat, Option.some_inj]

theorem hasWritten_other (h : i ≠ j) {e : Answered ClientAction ClientAction.Reply} :
    HasWritten (history ++ [.step i e]) j jwt ↔ HasWritten history j jwt := by
  rw [HasWritten, HasWritten, Pool.own_append, Pool.own_other h, List.append_nil]

theorem hasWritten_start {k : Call} :
    HasWritten (history ++ [.start i k]) j jwt ↔ HasWritten history j jwt := by
  rw [HasWritten, HasWritten, Pool.own_append, Pool.own_start, List.append_nil]

theorem perform_token {s s' : TaskCommandRouterClient}
    {e : Answered ClientAction ClientAction.Reply} {answer : e.action.Reply}
    (h : perform s e.action answer = (e.reply, s')) : s'.jwt = (writtenToken e).getD s.jwt := by
  rcases e with ⟨a, r⟩
  cases a <;> cases congrArg Prod.snd h <;> rfl

theorem lastToken_step {e : Answered ClientAction ClientAction.Reply} :
    lastToken (history ++ [.step i e]) = (writtenToken e).or (lastToken history) := by
  unfold lastToken
  rw [List.filterMap_append, List.getLast?_append]
  cases htoken : writtenToken e with
  | none =>
    rw [List.filterMap_cons_none (by exact htoken)]
    rfl
  | some jwt =>
    rw [List.filterMap_cons_some (by exact htoken)]
    rfl

theorem lastToken_start {k : Call} :
    lastToken (history ++ [.start i k]) = lastToken history := by
  unfold lastToken
  rw [List.filterMap_append, List.filterMap_cons_none rfl, List.filterMap_nil, List.append_nil]

/-- **The token in place** is the one that was written last. -/
theorem session_jwt (lib : JwtLibs) (c : TaskCommandRouterClient) (moves : List ClientMove) :
    (session lib c moves).shared.jwt = (lastToken (session lib c moves).history).getD c.jwt := by
  induction moves using List.reverseRecOn with
  | nil => rfl
  | append_singleton moves m ih =>
    rw [session_snoc]
    rcases Pool.move_cases (Call.program lib c.taskId c.serverUrl) perform (session lib c moves) m
      with hsame | ⟨i, k, -, hstart⟩ | ⟨i, k, a, next, r, hstep⟩
    · rw [hsame, ih]
    · rw [hstart]
      exact ih.trans (congrArg (·.getD c.jwt) lastToken_start.symm)
    · obtain ⟨world, hperform⟩ := hstep.shared
      have hjwt := @perform_token _ _ ⟨a, r⟩ world hperform
      rw [hstep.history, lastToken_step, hjwt, ih]
      cases writtenToken ⟨a, r⟩ <;> rfl

/-- Behind a thread that has written a token, the token in place is one that was written. -/
theorem lastToken_of_hasWritten (h : HasWritten (session lib c moves).history i jwt) :
    lastToken (session lib c moves).history = some (session lib c moves).shared.jwt := by
  have hmem : .step i ⟨.writeJwt jwt, ()⟩ ∈ (session lib c moves).history :=
    Pool.mem_own.mp (List.mem_of_getLast? h)
  have hne : (session lib c moves).history.filterMap tokenOf ≠ [] :=
    List.ne_nil_of_mem (List.mem_filterMap.mpr ⟨_, hmem, rfl⟩)
  have hlast : lastToken (session lib c moves).history = some _ :=
    List.getLast?_eq_some_getLast hne
  rw [session_jwt, hlast, Option.getD_some]

/-- A call that has written its token is in the phase behind that. -/
theorem hasWritten_phase {serverUrl : String} {ph : Phase}
    (h : (protocol lib serverUrl).after .idle (Pool.own i history) = some ph) :
    HasWritten history i jwt ↔ ph = .written jwt := by
  constructor
  · intro hwritten
    obtain ⟨es, hes⟩ := List.getLast?_eq_some_iff.mp hwritten
    rw [hes] at h
    obtain ⟨ph', -, he⟩ := Resumption.Discipline.after_snoc.mp h
    cases turn_of_protocol he
    rfl
  · intro hph
    subst hph
    obtain ⟨es, e, ph', hes, -, ht⟩ := last_turn h (fun h => nomatch h)
    obtain ⟨-, rfl⟩ := ht.into
    rw [HasWritten, hes, List.getLast?_concat]

/-- **One turn**: it keeps token and expiry together, unless it writes an expiry over a token that
    has another one. -/
theorem paired_turn {s s' : TaskCommandRouterClient} {e : Answered ClientAction ClientAction.Reply}
    {ph ph' : Phase} {answer : e.action.Reply}
    (hpaired : Quiescent history → Paired lib s)
    (hafter : (protocol lib c.serverUrl).after .idle (Pool.own i history) = some ph)
    (ht : Turn lib c.serverUrl ph e ph') (hperform : perform s e.action answer = (e.reply, s'))
    (hown : ∀ jwt, HasWritten history i jwt →
      (∃ j jwt', j ≠ i ∧ HasWritten history j jwt') ∨ expiryOf lib s.jwt = expiryOf lib jwt) :
    Quiescent (history ++ [.step i e]) → Paired lib s' := by
  intro hquiet
  by_cases hwritten : ∃ jwt, ph = .written jwt
  · obtain ⟨jwt, rfl⟩ := hwritten
    cases ht
    cases congrArg Prod.snd hperform
    rcases hown jwt ((hasWritten_phase hafter).mpr rfl) with ⟨j, jwt', hne, hj⟩ | hsame
    · exact absurd ((hasWritten_other (Ne.symm hne)).mpr hj) (hquiet j jwt')
    · exact hsame.symm
  · -- neither field changes here
    have hquietBefore : Quiescent history := by
      intro j jwt hj
      by_cases hji : i = j
      · subst hji
        exact hwritten ⟨jwt, (hasWritten_phase hafter).mp hj⟩
      · exact hquiet j jwt ((hasWritten_other hji).mpr hj)
    have hjwt : s'.jwt = s.jwt := by
      rcases perform_jwt hperform with hsame | hwrite
      · exact hsame
      · exact absurd (hasWritten_self.mpr hwrite) (hquiet i s'.jwt)
    have hexp : s'.jwtExp = s.jwtExp := by
      rcases perform_jwtExp hperform with hsame | hwrite
      · exact hsame
      · rw [hwrite] at ht
        generalize s'.jwtExp = exp at ht
        cases ht
        exact absurd ⟨_, rfl⟩ hwritten
    have hbefore : s.jwtExp = expiryOf lib s.jwt := hpaired hquietBefore
    rw [Paired, hexp, hjwt, hbefore]

theorem WritesOwn.of_append {moves' : List ClientMove} (h : WritesOwn lib c (moves ++ moves')) :
    WritesOwn lib c moves := by
  intro before i answer behind jwt hmoves
  refine h before i answer (behind ++ moves') jwt ?_
  rw [hmoves, List.append_assoc, List.cons_append]

/-- **Whole runs**: token and expiry stay together if the last to write finds its own. -/
theorem paired_of_writesOwn (hinitial : Paired lib c) (hown : WritesOwn lib c moves) :
    Quiescent (session lib c moves).history → Paired lib (session lib c moves).shared := by
  induction moves using List.reverseRecOn with
  | nil => exact fun _ => hinitial
  | append_singleton moves m ih =>
    have hpaired := ih hown.of_append
    rw [session_snoc]
    cases m with
    | start i k =>
      rcases Pool.start_cases (Call.program lib c.taskId c.serverUrl) perform (session lib c moves)
        i k with hsame | ⟨-, hstart⟩
      · rw [hsame]
        exact hpaired
      · rw [hstart]
        exact fun hquiet => hpaired fun j jwt hj => hquiet j jwt (hasWritten_start.mpr hj)
    | step i answer =>
      rcases Pool.step_cases (Call.program lib c.taskId c.serverUrl) perform (session lib c moves)
        i answer with hsame | ⟨k, a, next, r, hstep⟩
      · rw [hsame]
        exact hpaired
      · obtain ⟨ph, ph', hafter, ht⟩ := session_turn hstep
        obtain ⟨world, hperform⟩ := hstep.shared
        rw [hstep.history]
        refine paired_turn (e := ⟨a, r⟩) hpaired hafter ht hperform fun jwt hjwt => ?_
        refine (hown moves i answer [] jwt rfl hjwt).imp_right fun ⟨last, hlast, hsame⟩ => ?_
        rw [lastToken_of_hasWritten hjwt, Option.some_inj] at hlast
        rw [hlast, hsame]

/-- A refresh that has written its token writes its expiry next. -/
theorem step_of_hasWritten (h : HasWritten (session lib c moves).history i jwt)
    (answer : (a : ClientAction) → a.Reply) :
    (session lib c (moves ++ [.step i answer])).history =
        (session lib c moves).history ++ [.step i ⟨.writeJwtExp (expiryOf lib jwt), ()⟩] ∧
      (session lib c (moves ++ [.step i answer])).shared =
        { (session lib c moves).shared with jwtExp := expiryOf lib jwt } := by
  rw [session_snoc]
  cases hi : (session lib c moves).threads i with
  | none =>
    rw [HasWritten, ((session_onPath lib c moves).idle i hi).1] at h
    cases h
  | some t =>
    obtain ⟨k, p⟩ := t
    obtain ⟨ph, hafter, hkeeps⟩ := session_phase hi
    cases (hasWritten_phase hafter).mp h
    cases p with
    | done out => exact hkeeps.elim
    | act a next =>
      have hstep := Pool.steps_of_thread (Call.program lib c.taskId c.serverUrl) perform hi answer
      obtain ⟨ph', hph', -⟩ := hkeeps (perform (session lib c moves).shared a (answer a)).1
      obtain ⟨world, hperform⟩ := hstep.shared
      rw [hstep.history]
      generalize (perform (session lib c moves).shared a (answer a)).1 = r at hph' hperform ⊢
      cases turn_of_protocol hph'
      exact ⟨rfl, (congrArg Prod.snd hperform).symm⟩

/-- **Token and expiry are paired exactly as long as the last to write finds its own.** -/
theorem paired_exactly {reply : Except ModalError TaskGetCommandRouterAccessResponse}
    {taskId : String} (hinit : TaskCommandRouterClient.init lib reply taskId = .ok c)
    (moves : List ClientMove) :
    (∀ before behind, moves = before ++ behind → Quiescent (session lib c before).history →
      Paired lib (session lib c before).shared) ↔ WritesOwn lib c moves := by
  constructor
  · intro hpaired before i answer behind jwt hmoves hjwt
    by_cases hothers : ∃ j jwt', j ≠ i ∧ HasWritten (session lib c before).history j jwt'
    · exact Or.inl hothers
    · obtain ⟨hhistory, hshared⟩ := step_of_hasWritten hjwt answer
      have hquiet : Quiescent (session lib c (before ++ [.step i answer])).history := by
        intro j jwt' hj
        rw [hhistory] at hj
        by_cases hji : i = j
        · subst hji
          cases hasWritten_self.mp hj
        · exact hothers ⟨j, jwt', Ne.symm hji, (hasWritten_other hji).mp hj⟩
      have hnow := hpaired (before ++ [.step i answer]) behind
        (by rw [hmoves, List.append_assoc]; rfl) hquiet
      rw [hshared] at hnow
      exact Or.inr ⟨_, lastToken_of_hasWritten hjwt, hnow.symm⟩
  · intro hown before behind hmoves
    subst hmoves
    exact paired_of_writesOwn (init_ok hinit).2.2.1 hown.of_append

end Pairing

/-- Two refreshes at the same time: the first is granted a token that expires at 1, the second one
    that expires at 2; the second writes between the two writes of the first. -/
def crossedRefreshes : List ClientMove :=
  let first := sampleAnswer ⟨"h.eyJleHAiOjF9.s", "https://router"⟩
  let second := sampleAnswer ⟨"h.eyJleHAiOjJ9.s", "https://router"⟩
  [.start 0 .refreshJwtIfNeeded, .start 1 .refreshJwtIfNeeded,
    .step 0 first, .step 0 first, .step 0 first, .step 1 second, .step 1 second, .step 1 second,
    .step 0 first, .step 1 second, .step 1 second, .step 0 first]

/-- At the end both are through with their writes. -/
theorem crossed_quiescent : Quiescent (session sampleLibs sampleClient crossedRefreshes).history := by
  intro i jwt h
  match i with
  | 0 => cases h
  | 1 => cases h
  | i + 2 =>
    have hown : Pool.own (i + 2) (session sampleLibs sampleClient crossedRefreshes).history = [] :=
      rfl
    rw [HasWritten, hown] at h
    cases h

theorem crossed_mispaired :
    ¬ Paired sampleLibs (session sampleLibs sampleClient crossedRefreshes).shared := by
  show ¬ some 1 = expiryOf sampleLibs "h.eyJleHAiOjJ9.s"
  decide

/-- **Two refreshes leave a token with the expiry of another.** -/
theorem refreshes_mispair :
    TaskCommandRouterClient.init sampleLibs (.ok ⟨"h.e30.s", "https://router"⟩) "ta-1" =
      .ok sampleClient ∧
    Quiescent (session sampleLibs sampleClient crossedRefreshes).history ∧
    (session sampleLibs sampleClient crossedRefreshes).shared.jwt = "h.eyJleHAiOjJ9.s" ∧
    (session sampleLibs sampleClient crossedRefreshes).shared.jwtExp = some 1 ∧
    ¬ Paired sampleLibs (session sampleLibs sampleClient crossedRefreshes).shared :=
  ⟨rfl, crossed_quiescent, rfl, rfl, crossed_mispaired⟩

/-- There, the last to write an expiry does not find its own token. -/
theorem paired_exactly_crossed : ¬ WritesOwn sampleLibs sampleClient crossedRefreshes := by
  intro hown
  have hinit : TaskCommandRouterClient.init sampleLibs (.ok ⟨"h.e30.s", "https://router"⟩) "ta-1" =
      .ok sampleClient := rfl
  exact crossed_mispaired ((paired_exactly hinit crossedRefreshes).mpr hown crossedRefreshes []
    (List.append_nil _).symm crossed_quiescent)

end ModalRs
