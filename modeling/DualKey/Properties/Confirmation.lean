import DualKey.Client.Rpc

/-!
# Waiting for a confirmation

`sendAndConfirm` sends a transaction once and then asks for its status, up to sixty times and
with a pause after every answer that decides nothing. `SendOutcome` lists the ways this can go,
question by question: the outcome is that of the first answer that decides, and a timeout if none
of the sixty does. The paths of the session are exactly these.
-/

namespace DualKey

open Dialogue Session

variable {Coins : Type} (sdk : Sdk)

namespace Rpc

/-- The reply to a call. -/
abbrev Reply := Except String JsonRpcResponse

/-- What a call makes of the reply. -/
def callResult : Reply → Except CommandError Json
  | .error e => .error (.rpc e)
  | .ok { error := some err, .. } => .error (.rpc (sdk.printJson err))
  | .ok { error := none, result := some result } => .ok result
  | .ok { error := none, result := none } => .error (.rpc "empty RPC result")

/-- What a transaction's submission makes of the reply: its signature, as the cluster prints
it. -/
def accepted (reply : Reply) : Except CommandError String :=
  match callResult sdk reply with
  | .error e => .error e
  | .ok result =>
    match result.asStr with
    | some sig => .ok sig
    | none => .error (.rpc "missing signature")

/-- The end of the waiting, if a status reply is one. -/
def decision (sig : String) (reply : Reply) : Option (Except CommandError String) :=
  match callResult sdk reply with
  | .error e => some (.error e)
  | .ok result =>
    match status result with
    | .failed err => some (.error (transactionFailed sdk sig err))
    | .confirmed => some (.ok sig)
    | .pending => none

variable (rpc : Rpc)

/-- A call with its reply. -/
def entry (Coins : Type) (method : String) (params : Json) (reply : Reply) :
    Σ q, Io.Answer Coins q :=
  ⟨.post rpc.url (requestBody method params), reply⟩

/-- The questions of the waiting: a status call, and a pause if it decides nothing. -/
def pollLog (Coins : Type) (sig : String) (replies : List Reply) : Log (Io.Answer Coins) :=
  replies.flatMap fun reply =>
    rpc.entry Coins "getSignatureStatuses" (statusParams sig) reply ::
      if (decision sdk sig reply).isNone then [⟨.sleep 500, ()⟩] else []

/-- The ways of sending a transaction. -/
inductive SendOutcome (Coins : Type) (tx : Transaction) :
    Log (Io.Answer Coins) → Except CommandError String → Prop where
  | unserializable {e : String} (h : sdk.serializeTransaction tx = .error e) :
    SendOutcome Coins tx [] (.error (.rpc e))
  | refused {wire : List UInt8} {reply : Reply} {e : CommandError}
    (h : sdk.serializeTransaction tx = .ok wire) (hreply : accepted sdk reply = .error e) :
    SendOutcome Coins tx [rpc.entry Coins "sendTransaction" (sendParams sdk wire) reply] (.error e)
  | timedOut {wire : List UInt8} {reply : Reply} {sig : String} {replies : List Reply}
    (h : sdk.serializeTransaction tx = .ok wire) (hreply : accepted sdk reply = .ok sig)
    (hlen : replies.length = maxPolls) (hpending : ∀ a ∈ replies, decision sdk sig a = none) :
    SendOutcome Coins tx (rpc.entry Coins "sendTransaction" (sendParams sdk wire) reply ::
      rpc.pollLog sdk Coins sig replies) (.error (notConfirmed sig))
  | decided {wire : List UInt8} {reply last : Reply} {sig : String} {replies : List Reply}
    {r : Except CommandError String} (h : sdk.serializeTransaction tx = .ok wire)
    (hreply : accepted sdk reply = .ok sig) (hlen : replies.length < maxPolls)
    (hpending : ∀ a ∈ replies, decision sdk sig a = none)
    (hlast : decision sdk sig last = some r) :
    SendOutcome Coins tx (rpc.entry Coins "sendTransaction" (sendParams sdk wire) reply ::
      rpc.pollLog sdk Coins sig (replies ++ [last])) r

variable {sdk} {rpc} {method sig : String} {params : Json} {log : Log (Io.Answer Coins)}
  {r : Except CommandError String}

/-! ### One call -/

theorem call_eq :
    (rpc.call sdk method params : Session Coins Json) =
      ask (Io.post rpc.url (requestBody method params)) fun reply =>
        .done (callResult sdk reply) := by
  refine congrArg (ask (Io.post rpc.url (requestBody method params))) (funext fun reply => ?_)
  rcases reply with e | ⟨result, error⟩
  · rfl
  · cases error <;> cases result <;> rfl

/-! ### The waiting -/

theorem pollLog_cons_pending {reply : Reply} {replies : List Reply}
    (h : decision sdk sig reply = none) :
    rpc.pollLog sdk Coins sig (reply :: replies) =
      rpc.entry Coins "getSignatureStatuses" (statusParams sig) reply ::
        ⟨.sleep 500, ()⟩ :: rpc.pollLog sdk Coins sig replies := by
  rw [pollLog, List.flatMap_cons, h]
  rfl

theorem pollLog_singleton {reply : Reply} (h : decision sdk sig reply = some r) :
    rpc.pollLog sdk Coins sig [reply] =
      [rpc.entry Coins "getSignatureStatuses" (statusParams sig) reply] := by
  rw [pollLog, List.flatMap_cons, h]
  rfl

/-- One status call: either it decides, or the rest of the waiting goes on after a pause. -/
theorem path_poll_succ {n : ℕ} :
    Path (rpc.poll sdk sig (n + 1) : Session Coins String) log r ↔
      ∃ reply, (decision sdk sig reply = some r ∧
          log = [rpc.entry Coins "getSignatureStatuses" (statusParams sig) reply]) ∨
        (decision sdk sig reply = none ∧ ∃ rest,
          log = rpc.entry Coins "getSignatureStatuses" (statusParams sig) reply ::
            ⟨.sleep 500, ()⟩ :: rest ∧
          Path (rpc.poll sdk sig n : Session Coins String) rest r) := by
  rw [poll, call_eq, ask_bind, path_ask]
  refine exists_congr fun reply => ?_
  rw [decision]
  -- the answer to the call is an error, or a status that decides or not
  cases callResult sdk reply with
  | error e =>
    simp only [done_error_bind, path_done, Option.some.injEq]
    constructor
    · rintro ⟨_, rfl, rfl, h⟩
      exact Or.inl ⟨h, rfl⟩
    · rintro (⟨h, rfl⟩ | ⟨⟨⟩, -⟩)
      exact ⟨[], rfl, rfl, h⟩
  | ok result =>
    rw [done_ok_bind]
    cases hstatus : status result with
    | failed err =>
      simp only [hstatus, path_throw, Option.some.injEq]
      constructor
      · rintro ⟨_, rfl, rfl, h⟩
        exact Or.inl ⟨h, rfl⟩
      · rintro (⟨h, rfl⟩ | ⟨⟨⟩, -⟩)
        exact ⟨[], rfl, rfl, h⟩
    | confirmed =>
      simp only [hstatus, path_pure, Option.some.injEq]
      constructor
      · rintro ⟨_, rfl, rfl, h⟩
        exact Or.inl ⟨h, rfl⟩
      · rintro (⟨h, rfl⟩ | ⟨⟨⟩, -⟩)
        exact ⟨[], rfl, rfl, h⟩
    | pending =>
      simp only [hstatus, sleep, question, ask_bind, done_ok_bind, path_ask]
      constructor
      · rintro ⟨_, rfl, -, rest, rfl, h⟩
        exact Or.inr ⟨trivial, rest, rfl, h⟩
      · rintro (⟨⟨⟩, -⟩ | ⟨-, rest, rfl, h⟩)
        exact ⟨_, rfl, (), rest, rfl, h⟩

/-- The waiting ends with the first decision, or with a timeout after `n` replies. -/
theorem path_poll {n : ℕ} :
    Path (rpc.poll sdk sig n : Session Coins String) log r ↔
      (∃ replies, replies.length = n ∧ (∀ a ∈ replies, decision sdk sig a = none) ∧
        log = rpc.pollLog sdk Coins sig replies ∧ r = .error (notConfirmed sig)) ∨
      ∃ replies last, replies.length < n ∧ (∀ a ∈ replies, decision sdk sig a = none) ∧
        decision sdk sig last = some r ∧ log = rpc.pollLog sdk Coins sig (replies ++ [last]) := by
  induction n generalizing log with
  | zero =>
    rw [poll, path_throw]
    constructor
    · rintro ⟨rfl, rfl⟩
      exact Or.inl ⟨[], rfl, fun a ha => absurd ha List.not_mem_nil, rfl, rfl⟩
    · rintro (⟨replies, hlen, -, rfl, rfl⟩ | ⟨replies, last, hlen, -⟩)
      · obtain rfl := List.eq_nil_of_length_eq_zero hlen
        exact ⟨rfl, rfl⟩
      · exact absurd hlen (Nat.not_lt_zero _)
  | succ n ih =>
    rw [path_poll_succ]
    constructor
    · rintro ⟨reply, ⟨hdecided, rfl⟩ | ⟨hpending, rest, rfl, hrest⟩⟩
      · refine Or.inr ⟨[], reply, Nat.succ_pos n, fun a ha => absurd ha List.not_mem_nil,
          hdecided, ?_⟩
        exact (pollLog_singleton hdecided).symm
      · have hall {replies : List Reply} (h : ∀ a ∈ replies, decision sdk sig a = none) :
            ∀ a ∈ reply :: replies, decision sdk sig a = none :=
          List.forall_mem_cons.mpr ⟨hpending, h⟩
        -- the reply goes in front of those of the rest
        rcases ih.mp hrest with ⟨replies, hlen, h, rfl, hr⟩ | ⟨replies, last, hlen, h, hlast, rfl⟩
        · refine Or.inl ⟨reply :: replies, congrArg Nat.succ hlen, hall h, ?_, hr⟩
          rw [pollLog_cons_pending hpending]
        · refine Or.inr ⟨reply :: replies, last, Nat.succ_lt_succ hlen, hall h, hlast, ?_⟩
          rw [List.cons_append, pollLog_cons_pending hpending]
    · rintro (⟨replies, hlen, h, rfl, hr⟩ | ⟨replies, last, hlen, h, hlast, rfl⟩)
      · obtain ⟨reply, replies, rfl⟩ := List.exists_of_length_succ replies hlen
        obtain ⟨hpending, h⟩ := List.forall_mem_cons.mp h
        refine ⟨reply, Or.inr ⟨hpending, _, pollLog_cons_pending hpending, ?_⟩⟩
        exact ih.mpr (Or.inl ⟨replies, Nat.succ.inj hlen, h, rfl, hr⟩)
      · cases replies with
        | nil => exact ⟨last, Or.inl ⟨hlast, pollLog_singleton hlast⟩⟩
        | cons reply replies =>
          obtain ⟨hpending, h⟩ := List.forall_mem_cons.mp h
          refine ⟨reply, Or.inr ⟨hpending, _, pollLog_cons_pending hpending, ?_⟩⟩
          exact ih.mpr (Or.inr ⟨replies, last, Nat.lt_of_succ_lt_succ hlen, h, hlast, rfl⟩)

/-! ### Sending -/

/-- The submission: refused, or accepted with a signature. -/
theorem sendAndConfirm_eq {tx : Transaction} {wire : List UInt8}
    (h : sdk.serializeTransaction tx = .ok wire) :
    (rpc.sendAndConfirm sdk tx : Session Coins String) =
      ask (Io.post rpc.url (requestBody "sendTransaction" (sendParams sdk wire))) fun reply =>
        match accepted sdk reply with
        | .error e => .done (.error e)
        | .ok sig => rpc.poll sdk sig maxPolls := by
  rw [sendAndConfirm, h]
  show (rpc.call sdk _ _ >>= fun result => _) = _
  rw [call_eq, ask_bind]
  refine congrArg (ask _) (funext fun reply => ?_)
  rw [accepted]
  cases callResult sdk reply with
  | error e => rfl
  | ok result =>
    rw [done_ok_bind]
    show (okOr result.asStr _ >>= fun sig => rpc.poll sdk sig maxPolls) = _
    cases hsig : result.asStr with
    | none => simp only [okOr, hsig]; rfl
    | some sig => simp only [okOr, hsig]; rfl

/-- **The outcome of sending a transaction.** Whatever the cluster answers, a transaction is sent
at most once and its status asked for at most sixty times; the outcome is decided by the first
status that decides. Success means that the cluster reported the transaction confirmed or
finalized, without an error; a status that cannot be read, an error and sixty undecided replies
are failures. -/
theorem send_outcome (sdk : Sdk) (rpc : Rpc) (tx : Transaction) (log : Log (Io.Answer Coins))
    (r : Except CommandError String) :
    Path (rpc.sendAndConfirm sdk tx) log r ↔ rpc.SendOutcome sdk Coins tx log r := by
  cases hwire : sdk.serializeTransaction tx with
  | error e =>
    rw [sendAndConfirm, hwire]
    constructor
    · intro h
      obtain ⟨rfl, rfl⟩ := path_done.mp h
      exact .unserializable hwire
    · intro h
      cases h with
      | unserializable h =>
        rw [h] at hwire
        cases hwire
        exact .done _
      | refused h => rw [h] at hwire; cases hwire
      | timedOut h => rw [h] at hwire; cases hwire
      | decided h => rw [h] at hwire; cases hwire
  | ok wire =>
    rw [sendAndConfirm_eq hwire, path_ask]
    constructor
    · rintro ⟨reply, rest, rfl, h⟩
      cases hreply : accepted sdk reply with
      | error e =>
        rw [hreply] at h
        obtain ⟨rfl, rfl⟩ := path_done.mp h
        exact .refused hwire hreply
      | ok sig =>
        rw [hreply] at h
        rcases path_poll.mp h with ⟨replies, hlen, hp, rfl, rfl⟩ | ⟨replies, last, hlen, hp, hl, rfl⟩
        · exact .timedOut hwire hreply hlen hp
        · exact .decided hwire hreply hlen hp hl
    · intro h
      cases h with
      | unserializable h => rw [h] at hwire; cases hwire
      | refused h hreply =>
        rw [h] at hwire
        cases hwire
        refine ⟨_, [], rfl, ?_⟩
        rw [hreply]
        exact .done _
      | timedOut h hreply hlen hp =>
        rw [h] at hwire
        cases hwire
        refine ⟨_, _, rfl, ?_⟩
        rw [hreply]
        exact path_poll.mpr (Or.inl ⟨_, hlen, hp, rfl, rfl⟩)
      | decided h hreply hlen hp hl =>
        rw [h] at hwire
        cases hwire
        refine ⟨_, _, rfl, ?_⟩
        rw [hreply]
        exact path_poll.mpr (Or.inr ⟨_, _, hlen, hp, hl, rfl⟩)

end Rpc

end DualKey
