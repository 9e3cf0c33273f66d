/-
  File:      ModalRs/Router/Pinning.lean
  Subject:   A session stays with one router: its URL, and where its tokens come from.

  * `Granted`: a token that the server gave out for the session's URL.
  * `session_granted`: the token in place, and every token that was read, is granted.
  * `Void`, `void_wrote`: a refresh that comes to nothing has written nothing.
  * `session_pinned`: the URL, the tokens and the refreshes of every interleaving.
-/
import ModalRs.Router.Protocol

namespace ModalRs

open ModalRs.Lib

/-! ## 1. Where tokens come from -/

/-- The server gave out the token for the URL: to `init`, or later to a refresh. -/
def Granted (reply : Except ModalError TaskGetCommandRouterAccessResponse) (serverUrl : String)
    (history : List ClientEvent) (jwt : String) : Prop :=
  reply = .ok ⟨jwt, serverUrl⟩ ∨ ∃ i taskId, .step i ⟨.access taskId, .ok ⟨jwt, serverUrl⟩⟩ ∈ history

section Tokens

variable {lib : JwtLibs} {reply : Except ModalError TaskGetCommandRouterAccessResponse}
  {serverUrl taskId jwt : String} {history : List ClientEvent} {c : TaskCommandRouterClient}

theorem Granted.append (h : Granted reply serverUrl history jwt) (events : List ClientEvent) :
    Granted reply serverUrl (history ++ events) jwt :=
  h.imp_right fun ⟨i, task, hi⟩ => ⟨i, task, List.mem_append_left _ hi⟩

/-- What `init` needs, and what it makes of it. -/
theorem init_ok (h : TaskCommandRouterClient.init lib reply taskId = .ok c) :
    reply = .ok ⟨c.jwt, c.serverUrl⟩ ∧ "https://".toList <+: c.serverUrl.toList ∧
      c.jwtExp = expiryOf lib c.jwt ∧ c.closed = false := by
  cases reply with
  | error e => cases h
  | ok resp =>
    cases hexp : parseJwtExpiration lib resp.jwt with
    | error e =>
      rw [TaskCommandRouterClient.init] at h
      simp only [bind, Except.bind, hexp] at h
      cases h
    | ok exp =>
      rw [TaskCommandRouterClient.init] at h
      simp only [bind, Except.bind, hexp] at h
      split at h
      · cases h
      · rename_i hprefix
        cases h
        have hhttps : "https://".toList <+: resp.url.toList := by
          simpa only [Bool.not_eq_true', Bool.not_eq_false, List.isPrefixOf_iff_prefix] using hprefix
        exact ⟨rfl, hhttps, (expiryOf_ok hexp).symm, rfl⟩

/-- **A token is written only after the server granted it** to the same call. -/
theorem access_of_granted {es : List (Answered ClientAction ClientAction.Reply)}
    (h : (protocol lib serverUrl).after .idle es = some (.granted jwt)) :
    ∃ task, ⟨.access task, .ok ⟨jwt, serverUrl⟩⟩ ∈ es := by
  obtain ⟨es', e, ph, rfl, -, ht⟩ := last_turn h (fun h => nomatch h)
  obtain ⟨-, task, rfl⟩ := ht.into
  exact ⟨task, List.mem_append_right _ (List.mem_singleton.mpr rfl)⟩

/-- A token goes with an RPC only after it was read. -/
theorem read_of_holding {es : List (Answered ClientAction ClientAction.Reply)} {ph : Phase}
    (h : (protocol lib serverUrl).after .idle es = some ph)
    (hph : ph = .holding jwt ∨ ph = .holdingNew jwt) : ⟨.readJwt, jwt⟩ ∈ es := by
  rcases hph with rfl | rfl
  all_goals
    obtain ⟨es', e, ph, rfl, -, ht⟩ := last_turn h (fun h => nomatch h)
    obtain ⟨-, rfl⟩ := ht.into
    exact List.mem_append_right _ (List.mem_singleton.mpr rfl)

/-- The tokens of a session: the one in place, and those that were read. -/
structure TokensGranted (reply : Except ModalError TaskGetCommandRouterAccessResponse)
    (serverUrl : String) (s : TaskCommandRouterClient) (history : List ClientEvent) : Prop where
  url : s.serverUrl = serverUrl
  stored : Granted reply serverUrl history s.jwt
  read : ∀ i jwt, .step i ⟨.readJwt, jwt⟩ ∈ history → Granted reply serverUrl history jwt

/-- **Every token is granted**: the one in place, and every one that was read. -/
theorem session_granted (hinit : TaskCommandRouterClient.init lib reply taskId = .ok c)
    (moves : List ClientMove) :
    TokensGranted reply c.serverUrl (session lib c moves).shared (session lib c moves).history := by
  refine session_invariant (I := TokensGranted reply c.serverUrl)
    ⟨rfl, Or.inl (init_ok hinit).1, fun _ _ h => absurd h List.not_mem_nil⟩ ?_ ?_ moves
  · rintro s history i k ⟨hurl, hstored, hread⟩
    refine ⟨hurl, hstored.append _, fun j jwt hj => ?_⟩
    rcases List.mem_append.mp hj with hj | hj
    · exact (hread j jwt hj).append _
    · cases List.mem_singleton.mp hj
  · rintro s history s' i e ph ph' ⟨hurl, hstored, hread⟩ hafter ht ⟨answer, hperform⟩
    refine ⟨(perform_url hperform).trans hurl, ?_, fun j jwt hj => ?_⟩
    · rcases perform_jwt hperform with hsame | hwrite
      · rw [hsame]
        exact hstored.append _
      · -- a token that is written was granted to the call
        rw [hwrite] at ht
        generalize s'.jwt = jwt at ht ⊢
        cases ht
        obtain ⟨task, htask⟩ := access_of_granted hafter
        exact Or.inr ⟨i, task, List.mem_append_left _ (Pool.mem_own.mp htask)⟩
    · rcases List.mem_append.mp hj with hj | hj
      · exact (hread j jwt hj).append _
      · -- a token that is read was in place
        cases List.mem_singleton.mp hj
        have hjwt : jwt = s.jwt := perform_readJwt hperform
        rw [hjwt]
        exact hstored.append _

end Tokens

/-! ## 2. Refreshes that come to nothing -/

/-- What tells a call that it gets no new token: the flag, no access, or access elsewhere. -/
def Discouraging (serverUrl : String) : Answered ClientAction ClientAction.Reply → Prop
  | ⟨.loadClosed, closed⟩ => closed = true
  | ⟨.access _, .error _⟩ => True
  | ⟨.access _, .ok resp⟩ => resp.url ≠ serverUrl
  | _ => False

/-- A write to the token or its expiry. -/
def Writes : ClientAction → Prop
  | .writeJwt _ | .writeJwtExp _ => True
  | _ => False

/-- A refresh of thread `i` that fails, sees a changed URL or runs after the client was closed. -/
inductive RefreshVoid (serverUrl : String) (g : Session) (i : Nat) : Prop where
  | failed (e : ModalError) (h : g.threads i = some (.refreshJwtIfNeeded, .done (.error e)))
  | noAccess (taskId : String) (e : ModalError) (h : .step i ⟨.access taskId, .error e⟩ ∈ g.history)
  | changed (taskId : String) (resp : TaskGetCommandRouterAccessResponse)
      (h : .step i ⟨.access taskId, .ok resp⟩ ∈ g.history) (hurl : resp.url ≠ serverUrl)
  | closed (before behind : List ClientEvent) (j : Nat) (flag : Bool)
      (h : g.history = before ++ .step i ⟨.loadClosed, flag⟩ :: behind)
      (hclosed : .step j ⟨.storeClosed, ()⟩ ∈ before)

/-- Nothing that thread `i` did in these moves changed the token or its expiry. -/
def LeavesToken (lib : JwtLibs) (c : TaskCommandRouterClient) (moves : List ClientMove) (i : Nat) :
    Prop :=
  ∀ before answer behind, moves = before ++ .step i answer :: behind →
    (session lib c (before ++ [.step i answer])).shared.jwt = (session lib c before).shared.jwt ∧
    (session lib c (before ++ [.step i answer])).shared.jwtExp =
      (session lib c before).shared.jwtExp

section Void

variable {lib : JwtLibs} {serverUrl : String} {c : TaskCommandRouterClient}
  {moves : List ClientMove} {i : Nat}

/-- **A call that was discouraged is at its end.** -/
theorem discouraged_stuck {es : List (Answered ClientAction ClientAction.Reply)} {ph : Phase}
    (h : (protocol lib serverUrl).after .idle es = some ph) :
    ∀ e ∈ es, Discouraging serverUrl e → ph = .shut ∨ ph = .failed := by
  refine Resumption.Discipline.after_invariant
    (I := fun ph es => ∀ e ∈ es, Discouraging serverUrl e → ph = .shut ∨ ph = .failed)
    ?_ (fun _ h => absurd h List.not_mem_nil) h
  intro ph es last ph' ih hlast e he hdis
  have ht := turn_of_protocol hlast
  rcases List.mem_append.mp he with hold | hnew
  · rcases ih e hold hdis with rfl | rfl
    all_goals cases ht
  · cases List.mem_singleton.mp hnew
    cases ht with
    | look closed | lookAgain closed =>
      cases (hdis : closed = true)
      exact Or.inl rfl
    | grant task resp hurl => exact absurd hurl hdis
    | elsewhere task resp hurl => exact Or.inr rfl
    | noAccess task error => exact Or.inr rfl
    | _ => exact hdis.elim

/-- The phases behind a write. -/
def Phase.AfterWrite : Phase → Prop
  | .written _ | .refreshed | .holdingNew _ | .finished => True
  | _ => False

theorem wrote_afterWrite {es : List (Answered ClientAction ClientAction.Reply)} {ph : Phase}
    (h : (protocol lib serverUrl).after .idle es = some ph) :
    ∀ e ∈ es, Writes e.action → ph.AfterWrite := by
  refine Resumption.Discipline.after_invariant
    (I := fun ph es => ∀ e ∈ es, Writes e.action → ph.AfterWrite)
    ?_ (fun _ h => absurd h List.not_mem_nil) h
  intro ph es last ph' ih hlast e he hwrites
  have ht := turn_of_protocol hlast
  rcases List.mem_append.mp he with hold | hnew
  · have hph := ih e hold hwrites
    cases ht with
    | writeExp | takeNew | secondAttempt => trivial
    | _ => exact hph.elim
  · cases List.mem_singleton.mp hnew
    cases ht with
    | write | writeExp => trivial
    | _ => exact hwrites.elim

/-- The flag stays set. -/
theorem session_closed (moves : List ClientMove) (j : Nat) :
    .step j ⟨.storeClosed, ()⟩ ∈ (session lib c moves).history →
      (session lib c moves).shared.closed = true := by
  refine session_invariant
    (I := fun s history => .step j ⟨.storeClosed, ()⟩ ∈ history → s.closed = true)
    (fun h => absurd h List.not_mem_nil) ?_ ?_ moves
  · intro s history i k ih h
    rcases List.mem_append.mp h with h | h
    · exact ih h
    · cases List.mem_singleton.mp h
  · rintro s history s' i e ph ph' ih - - ⟨answer, hperform⟩ h
    rcases perform_closed hperform with ⟨hsame, hne⟩ | hset
    · rcases List.mem_append.mp h with h | h
      · rw [hsame]
        exact ih h
      · cases List.mem_singleton.mp h
        exact absurd rfl hne
    · exact hset

/-- **The flag that a thread reads after a close is set.** -/
theorem closed_read {before behind : List ClientEvent} {j : Nat} {flag : Bool}
    (h : (session lib c moves).history = before ++ .step i ⟨.loadClosed, flag⟩ :: behind)
    (hclosed : .step j ⟨.storeClosed, ()⟩ ∈ before) : flag = true := by
  obtain ⟨ms₁, m, ms₂, k, next, rfl, hbefore, hstep⟩ := Pool.run_performed h
  obtain ⟨answer, hanswer⟩ := hstep.shared
  have hshared : (session lib c ms₁).shared.closed = true :=
    session_closed ms₁ j (by rw [session, hbefore]; exact hclosed)
  have hflag : flag = (session lib c ms₁).shared.closed := perform_loadClosed hanswer
  rw [hflag, hshared]

/-- **A refresh that comes to nothing has written nothing.** -/
theorem void_wrote (hvoid : RefreshVoid c.serverUrl (session lib c moves) i)
    {e : Answered ClientAction ClientAction.Reply} (he : .step i e ∈ (session lib c moves).history) :
    ¬ Writes e.action := by
  intro hwrites
  obtain ⟨ph, hph⟩ := session_after lib c moves i
  have hlate := wrote_afterWrite hph e (Pool.mem_own.mpr he) hwrites
  have hstuck : ∀ d, .step i d ∈ (session lib c moves).history → ¬ Discouraging c.serverUrl d := by
    intro d hd hdis
    rcases discouraged_stuck hph d (Pool.mem_own.mpr hd) hdis with rfl | rfl
    all_goals exact hlate.elim
  cases hvoid with
  | failed error hdone =>
    have hpath := (session_onPath lib c moves).path i _ _ hdone
    obtain ⟨ph', hph', hended, hover⟩ := Resumption.keeps_follows hpath.2 keeps_refreshProgram
    cases Option.some.inj (hph.symm.trans hph')
    cases ph with
    | written | holdingNew => exact hended
    | refreshed =>
      obtain ⟨a, ha⟩ := hended
      cases ha
    | finished => exact hover rfl
    | _ => exact hlate.elim
  | noAccess task error h => exact hstuck _ h trivial
  | changed task resp h hurl => exact hstuck _ h hurl
  | closed before behind j flag h hclosed =>
    refine hstuck ⟨.loadClosed, flag⟩ ?_ (closed_read h hclosed)
    rw [h]
    exact List.mem_append_right _ List.mem_cons_self

/-- **The token and its expiry are as they were**, whatever a refresh did that came to nothing. -/
theorem void_leaves (hvoid : RefreshVoid c.serverUrl (session lib c moves) i) :
    LeavesToken lib c moves i := by
  intro before answer behind hmoves
  subst hmoves
  rw [session_snoc]
  rcases Pool.step_cases (Call.program lib c.taskId c.serverUrl) perform (session lib c before) i
    answer with hsame | ⟨k, a, next, r, hstep⟩
  · rw [hsame]
    exact ⟨rfl, rfl⟩
  · -- what the step did is in the history to the end
    have hmem : .step i ⟨a, r⟩ ∈ (session lib c (before ++ .step i answer :: behind)).history := by
      have hlater := session_history lib c (before ++ [.step i answer]) behind
      rw [List.append_assoc, session_snoc, hstep.history] at hlater
      exact hlater.subset (List.mem_append_right _ (List.mem_singleton.mpr rfl))
    have hnot : ¬ Writes a := void_wrote hvoid hmem
    obtain ⟨world, hperform⟩ := hstep.shared
    constructor
    · rcases perform_jwt (e := ⟨a, r⟩) hperform with hsame | hwrite
      · exact hsame
      · cases hwrite
        exact absurd trivial hnot
    · rcases perform_jwtExp (e := ⟨a, r⟩) hperform with hsame | hwrite
      · exact hsame
      · cases hwrite
        exact absurd trivial hnot

/-- **A session is pinned.** For every client that `init` returned and every interleaving of calls
    on it, its URL is an https one and stays what it was, every token that is stored or sent was
    granted for that URL before, and a refresh that fails, sees another URL or runs after the client
    was closed changes neither the token nor its expiry. -/
theorem session_pinned {reply : Except ModalError TaskGetCommandRouterAccessResponse}
    {taskId : String} (hinit : TaskCommandRouterClient.init lib reply taskId = .ok c)
    (moves : List ClientMove) :
    "https://".toList <+: (session lib c moves).shared.serverUrl.toList ∧
    (session lib c moves).shared.serverUrl = c.serverUrl ∧
    Granted reply c.serverUrl (session lib c moves).history (session lib c moves).shared.jwt ∧
    (∀ before i e behind jwt, (session lib c moves).history = before ++ .step i e :: behind →
      (e.action = .writeJwt jwt ∨ ∃ request, e.action = .rpc request jwt) →
        Granted reply c.serverUrl before jwt) ∧
    ∀ i, RefreshVoid c.serverUrl (session lib c moves) i → LeavesToken lib c moves i := by
  obtain ⟨hurl, hstored, -⟩ := session_granted hinit moves
  refine ⟨hurl ▸ (init_ok hinit).2.1, hurl, hstored, ?_, fun i => void_leaves⟩
  intro before i e behind jwt h hjwt
  obtain ⟨ms₁, m, ms₂, k, next, rfl, hbefore, hstep⟩ := Pool.run_performed h
  have hgranted := session_granted hinit ms₁
  obtain ⟨ph, ph', hph, ht⟩ := session_turn hstep
  rw [show (session lib c ms₁).history = before from hbefore] at hgranted hph
  have howned : ∀ d, d ∈ Pool.own i before → .step i d ∈ before := fun d => Pool.mem_own.mp
  rcases e with ⟨a, r⟩
  rcases hjwt with hwrite | ⟨request, hsend⟩
  · cases (hwrite : a = _)
    cases ht
    obtain ⟨task, htask⟩ := access_of_granted hph
    exact Or.inr ⟨i, task, howned _ htask⟩
  · cases (hsend : a = _)
    cases ht with
    | attempt => exact hgranted.read i jwt (howned _ (read_of_holding hph (Or.inl rfl)))
    | secondAttempt => exact hgranted.read i jwt (howned _ (read_of_holding hph (Or.inr rfl)))

end Void

/-- A client whose token has no expiry. -/
def sampleClient : TaskCommandRouterClient := ⟨"ta-1", "https://router", "h.e30.s", none, false⟩

/-- Answers of a world that grants access with one response. -/
def sampleAnswer (access : TaskGetCommandRouterAccessResponse) : (a : ClientAction) → a.Reply
  | .access _ => .ok access
  | .rpc _ _ => .error (.grpc ⟨.unauthenticated, "expired"⟩)
  | .loadClosed => false
  | .storeClosed => ()
  | .readJwt => ""
  | .readJwtExp => (none, 0)
  | .writeJwt _ => ()
  | .writeJwtExp _ => ()
  | .instantNow => 0

/-- A refresh that is told of another router fails and leaves the token as it was. -/
theorem session_pinned_elsewhere :
    let elsewhere := sampleAnswer ⟨"h.eyJleHAiOjF9.s", "https://elsewhere"⟩
    let moves : List ClientMove :=
      .start 0 .refreshJwtIfNeeded :: List.replicate 3 (.step 0 elsewhere)
    (session sampleLibs sampleClient moves).shared.serverUrl = "https://router" ∧
      LeavesToken sampleLibs sampleClient moves 0 := by
  intro elsewhere moves
  have hinit : TaskCommandRouterClient.init sampleLibs (.ok ⟨"h.e30.s", "https://router"⟩) "ta-1" =
      .ok sampleClient := rfl
  have hpinned := session_pinned hinit moves
  exact ⟨hpinned.2.1, hpinned.2.2.2.2 0 (.failed _ rfl)⟩

end ModalRs
