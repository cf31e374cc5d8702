import Moqtap.EgressQueue

/-!
What a hook's answer does to one unit, `execute` in `moqtap-proxy`'s `exec.rs`.

Which actions a site admits is the capability table's to say and an argument here
(`admits`); a refused unit goes out unchanged, through the same fork an admitted one
takes.  Reports, counters and the ledger of deferred effects are left out.

The bytes an answer asks for are `prescribed`; `execute` writes or queues just
these (`execute_keeps`).
-/

namespace Moqtap.Exec

open ByteCursor Egress

def maxApplicationErrorCode : ℕ := 2 ^ 62 - 1

inductive Action
  | pass
  | replace (bytes : Bytes)
  | replacePayload (bytes : Bytes)
  | delay (by' : ℕ) (next : Action)
  | hold (gate : ℕ) (next : Action)
  | drop
  | truncate (bytes code : ℕ)
  | resetStream (code : ℕ)
  | closeSession (code : ℕ) (reason : Bytes)
  deriving DecidableEq, Repr

inductive ActionKind
  | pass
  | replace
  | replacePayload
  | delay
  | hold
  | dropElide
  | truncate
  | resetStream
  | closeSession
  deriving DecidableEq, Repr

/-- A unit at a site: its wire bytes, where its payload starts, and which kinds the
capability table admits of it, a replaced payload by its length. -/
structure Target where
  raw : Bytes
  payloadOffset : Option ℕ
  isObject : Bool
  admits : ActionKind → Option ℕ → Bool

inductive Payload
  | write (bytes : Bytes)
  | elide
  deriving DecidableEq, Repr

inductive Plan
  | writeNow (bytes : Bytes)
  | nothing
  | terminal
  | closeSession
  deriving DecidableEq, Repr

structure Outcome where
  plan : Plan
  noteElided : Bool
  queue : PendingQueue
  /-- Whether the session is closing once the unit has been executed. -/
  closing : Bool

/-- When a unit arrived, and when it is committed to the queue. -/
structure Times where
  arrivedAt : ℕ
  now : ℕ
  deriving DecidableEq, Repr

def checkComposition : Action → Bool
  | .pass | .replace _ | .replacePayload _ | .drop => true
  | .delay _ _ | .hold _ _ | .truncate _ _ | .resetStream _ | .closeSession _ _ => false

def checkErrorCode (code : ℕ) : Bool := code ≤ maxApplicationErrorCode

/-- `prepare_content`, and whether the framer is to be told of an elision: none is a refusal. -/
def prepareContent (target : Target) : Action → Option (Payload × Bool)
  | .pass => if target.admits .pass none then some (.write target.raw, false) else none
  | .replace replacement =>
    if target.admits .replace none then some (.write replacement, false) else none
  | .replacePayload replacement =>
    if target.admits .replacePayload (some replacement.length) then
      let offset := target.payloadOffset.getD target.raw.length
      some (.write (target.raw.take offset ++ replacement), false)
    else none
  | .drop => if target.admits .dropElide none then some (.elide, target.isObject) else none
  | .delay _ _ | .hold _ _ | .truncate _ _ | .resetStream _ | .closeSession _ _ => none

def pendingFor (payload : Payload) (releaseAt : ℕ) : Pending :=
  match payload with
  | .write raw => .bytes raw releaseAt
  | .elide => .elided releaseAt

def queueIsBusy (queue : PendingQueue) : Bool := !queue.isEmpty || queue.isShaped

def commitNow (payload : Payload) (queue : PendingQueue) (times : Times) : Plan × PendingQueue :=
  if !queueIsBusy queue then
    (match payload with
      | .write raw => .writeNow raw
      | .elide => .nothing, queue)
  else (.nothing, queue.push (pendingFor payload times.now) times.now)

/-- `plan_action`: none is a refusal, and says whether the session is closing all the same. -/
def planAction (target : Target) (times : Times) (queue : PendingQueue) (closing : Bool) :
    Action → Option Outcome
  | .delay by' next =>
    if target.admits .delay none && checkComposition next then
      (prepareContent target next).map fun content =>
        let releaseAt := times.arrivedAt + min by' queue.config.maxHold
        { plan := .nothing
          noteElided := content.2
          queue := queue.push (pendingFor content.1 releaseAt) times.now
          closing := closing }
    else none
  | .hold gate next =>
    if target.admits .hold none && checkComposition next then
      (prepareContent target next).map fun content =>
        let ceiling := times.arrivedAt + queue.config.maxHold
        { plan := .nothing
          noteElided := content.2
          queue := queue.push ((pendingFor content.1 ceiling).withGate gate) times.now
          closing := closing }
    else none
  | .truncate bytes code =>
    if target.admits .truncate none && checkErrorCode code then
      let front := target.raw.take (min bytes target.raw.length)
      some
        { plan := .terminal
          noteElided := false
          queue := queue.push (.terminal (.truncate front code) times.now) times.now
          closing := closing }
    else none
  | .resetStream code =>
    if target.admits .resetStream none && checkErrorCode code then
      some
        { plan := .terminal
          noteElided := false
          queue := queue.push (.terminal (.reset code) times.now) times.now
          closing := closing }
    else none
  | .closeSession _ _ =>
    if target.admits .closeSession none && !closing then
      some { plan := .closeSession, noteElided := false, queue := queue, closing := true }
    else none
  | action =>
    (prepareContent target action).map fun content =>
      let (plan, queue) := commitNow content.1 queue times
      { plan := plan, noteElided := content.2, queue := queue, closing := closing }

/-- A refused unit is forwarded unchanged. -/
def execute (target : Target) (times : Times) (queue : PendingQueue) (closing : Bool)
    (action : Action) : Outcome :=
  match planAction target times queue closing action with
  | some applied => applied
  | none =>
    let (plan, queue) := commitNow (.write target.raw) queue times
    { plan := plan, noteElided := false, queue := queue, closing := closing }

/-- `enqueue_unshown`: bytes no hook was shown, behind whatever waits. -/
def enqueueUnshown (queue : PendingQueue) (raw : Bytes) (now : ℕ) : PendingQueue :=
  queue.push (.bytes raw now) now

/-! ## What an answer asks for -/

def Payload.bytes : Payload → Bytes
  | .write raw => raw
  | .elide => []

/-- The bytes of a content action, and the unit's own where it is refused. -/
def contentBytes (target : Target) (action : Action) : Bytes :=
  match prepareContent target action with
  | some content => content.1.bytes
  | none => target.raw

/-- The bytes an answer asks for: a refused one asks for the unit unchanged. -/
def prescribed (target : Target) (closing : Bool) : Action → Bytes
  | .delay _ next =>
    if target.admits .delay none && checkComposition next then contentBytes target next else target.raw
  | .hold _ next =>
    if target.admits .hold none && checkComposition next then contentBytes target next else target.raw
  | .truncate bytes code =>
    if target.admits .truncate none && checkErrorCode code then target.raw.take bytes else target.raw
  | .resetStream code =>
    if target.admits .resetStream none && checkErrorCode code then [] else target.raw
  | .closeSession _ _ => if target.admits .closeSession none && !closing then [] else target.raw
  | action => contentBytes target action

variable {target : Target} {times : Times} {queue : PendingQueue} {closing : Bool} {action : Action}

/-- What has become of `bytes`: written at once, on a queue that is neither shaped nor
in use, or queued behind everything that waits. -/
inductive Commits (queue : PendingQueue) (bytes : Bytes) : Plan → PendingQueue → Prop
  | written (idle : queue.q = []) (unshaped : queue.shaper = none) : Commits queue bytes (.writeNow bytes) queue
  | elided (idle : queue.q = []) (unshaped : queue.shaper = none) (none' : bytes = []) :
    Commits queue bytes .nothing queue
  | queued (unit : Pending) (now : ℕ) (plain : unit.item.isTerminal = false) (owes : unit.item.bytes = bytes) :
    Commits queue bytes .nothing (queue.push unit now)
  | terminal (unit : Pending) (now : ℕ) (final : unit.item.isTerminal = true) (owes : unit.item.bytes = bytes) :
    Commits queue bytes .terminal (queue.push unit now)
  | closed : Commits queue bytes .closeSession queue

theorem pendingFor_item (payload : Payload) (releaseAt : ℕ) :
    (pendingFor payload releaseAt).item.isTerminal = false ∧
      (pendingFor payload releaseAt).item.bytes = payload.bytes := by
  cases payload <;> exact ⟨rfl, rfl⟩

theorem commitNow_commits (payload : Payload) :
    Commits queue payload.bytes (commitNow payload queue times).1 (commitNow payload queue times).2 := by
  unfold commitNow
  by_cases busy : queueIsBusy queue = true
  · rw [busy, if_neg (by decide)]
    exact .queued _ _ (pendingFor_item ..).1 (pendingFor_item ..).2
  · have free : queueIsBusy queue = false := Bool.eq_false_iff.mpr busy
    rw [free, if_pos (by decide)]
    obtain ⟨idle, unshaped⟩ := Bool.or_eq_false_iff.mp free
    have idle : queue.q = [] := by simpa [PendingQueue.isEmpty] using idle
    have unshaped : queue.shaper = none := by simpa [PendingQueue.isShaped] using unshaped
    cases payload with
    | write raw => exact .written idle unshaped
    | elide => exact .elided idle unshaped rfl

theorem execute_refused (refused : planAction target times queue closing action = none) :
    Commits queue target.raw (execute target times queue closing action).plan
      (execute target times queue closing action).queue := by
  unfold execute
  rw [refused]
  exact commitNow_commits (.write target.raw)

/-- A content action that stands alone is written now or queued behind what waits. -/
theorem content_commits
    (content : planAction target times queue closing action =
      (prepareContent target action).map fun content =>
        { plan := (commitNow content.1 queue times).1
          noteElided := content.2
          queue := (commitNow content.1 queue times).2
          closing := closing }) :
    Commits queue (contentBytes target action) (execute target times queue closing action).plan
      (execute target times queue closing action).queue := by
  unfold contentBytes
  cases prepared : prepareContent target action with
  | none => exact execute_refused (content.trans (by rw [prepared]; rfl))
  | some payload =>
    unfold execute
    rw [content, prepared]
    exact commitNow_commits payload.1

/-- A content action that is put off is queued with what it makes of the unit. -/
theorem deferred_commits {admitted : Bool} {next : Action} (unit : Payload → Pending)
    (item : ∀ payload, (unit payload).item.isTerminal = false ∧
      (unit payload).item.bytes = payload.bytes)
    (deferred : planAction target times queue closing action =
      if admitted then
        (prepareContent target next).map fun content =>
          { plan := .nothing
            noteElided := content.2
            queue := queue.push (unit content.1) times.now
            closing := closing }
      else none) :
    Commits queue (if admitted then contentBytes target next else target.raw)
      (execute target times queue closing action).plan
      (execute target times queue closing action).queue := by
  cases admitted with
  | false => exact execute_refused deferred
  | true =>
    rw [if_pos rfl] at deferred ⊢
    unfold contentBytes
    cases prepared : prepareContent target next with
    | none => exact execute_refused (deferred.trans (by rw [prepared]; rfl))
    | some content =>
      unfold execute
      rw [deferred, prepared]
      exact .queued _ _ (item content.1).1 (item content.1).2

/-- A terminal goes to the tail of the queue. -/
theorem terminal_commits {admitted : Bool} {terminal : Terminal}
    (ending : planAction target times queue closing action =
      if admitted then
        some
          { plan := .terminal
            noteElided := false
            queue := queue.push (.terminal terminal times.now) times.now
            closing := closing }
      else none) :
    Commits queue (if admitted then (Item.terminal terminal).bytes else target.raw)
      (execute target times queue closing action).plan
      (execute target times queue closing action).queue := by
  cases admitted with
  | false => exact execute_refused ending
  | true =>
    unfold execute
    rw [ending]
    exact .terminal _ _ rfl rfl

/-- **A unit is committed as its answer asks**, whatever the site admits. -/
theorem execute_commits (target : Target) (times : Times) (queue : PendingQueue) (closing : Bool)
    (action : Action) :
    Commits queue (prescribed target closing action) (execute target times queue closing action).plan
      (execute target times queue closing action).queue := by
  cases action with
  | pass => exact content_commits rfl
  | replace => exact content_commits rfl
  | replacePayload => exact content_commits rfl
  | drop => exact content_commits rfl
  | delay by' next =>
    exact deferred_commits (fun payload => pendingFor payload (times.arrivedAt + min by' queue.config.maxHold))
      (fun payload => pendingFor_item payload _) rfl
  | hold gate next =>
    exact deferred_commits (fun payload =>
      (pendingFor payload (times.arrivedAt + queue.config.maxHold)).withGate gate)
      (fun payload => pendingFor_item payload _) rfl
  | truncate bytes code =>
    have commits := @terminal_commits target times queue closing (.truncate bytes code) _ _ rfl
    have front : target.raw.take (min bytes target.raw.length) = target.raw.take bytes := by
      rw [← List.take_take, List.take_length]
    rwa [Item.bytes, front] at commits
  | resetStream code => exact @terminal_commits target times queue closing (.resetStream code) _ _ rfl
  | closeSession code reason =>
    rw [prescribed]
    by_cases admitted : (target.admits .closeSession none && !closing) = true
    · unfold execute
      rw [planAction, if_pos admitted, if_pos admitted]
      exact .closed
    · rw [if_neg admitted]
      exact execute_refused (if_neg admitted)

end Moqtap.Exec
