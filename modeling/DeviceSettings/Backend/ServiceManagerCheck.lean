import Mathlib.Data.List.Basic
import DeviceSettings.Std.Usage

/-!
# The check for a service manager

`isServiceManagerAvailable` opens the binder driver, maps its memory and pings the context manager.
The words that the driver writes back are read as tokens, one word each, up to the first that says
something.
-/

namespace DeviceSettings.Backend

open DeviceSettings.Std

/-! ### The tokens -/

/-- The return codes of `linux/android/binder.h` that the parsing loop compares with. -/
structure BinderCodes where
  brReply : UInt32
  brDeadReply : UInt32
  brFailedReply : UInt32
  brTransactionComplete : UInt32
  brNoop : UInt32
  brOk : UInt32

def brReplyV7 : UInt32 := 0x80247201

def brReplyV8 : UInt32 := 0x80287203

def brReplyV7Actual : UInt32 := 0x7206

def brTransactionCompleteV7 : UInt32 := 0x720c

def brOkV7 : UInt32 := 0x7205

def pingTransaction : UInt32 := 0x5F504E47

namespace BinderCodes

variable (codes : BinderCodes)

/-- The first test of the loop. -/
def isReply (token : UInt32) : Bool :=
  token == codes.brReply || token == brReplyV7Actual || token == brReplyV7 || token == brReplyV8

/-- The second test. -/
def isFault (token : UInt32) : Bool :=
  token == codes.brDeadReply || token == codes.brFailedReply

/-- The third test. -/
def isComplete (token : UInt32) : Bool :=
  token == codes.brTransactionComplete || token == brTransactionCompleteV7

/-- The fourth test. -/
def isNoop (token : UInt32) : Bool :=
  token == codes.brNoop || token == codes.brOk || token == brOkV7

/-- The parsing loop of `execute_binder_ping`. -/
def parse : List UInt32 → Bool
  | [] => false
  | token :: tokens =>
    if codes.isReply token then true
    else if codes.isFault token then false
    else if codes.isComplete token then parse tokens
    else if codes.isNoop token then parse tokens
    else false

/-- The loop goes on behind the token. -/
def Skipped (token : UInt32) : Prop :=
  codes.isReply token = false ∧ codes.isFault token = false ∧
    (codes.isComplete token = true ∨ codes.isNoop token = true)

variable {codes}

theorem parse_cons_of_skipped {token : UInt32} (skipped : codes.Skipped token)
    (tokens : List UInt32) : codes.parse (token :: tokens) = codes.parse tokens := by
  obtain ⟨noReply, noFault, passes⟩ := skipped
  rw [parse]
  simp only [noReply, noFault, Bool.false_eq_true, if_false]
  rcases passes with complete | noop
  · rw [if_pos complete]
  · split_ifs <;> rfl

/-- A token that is not skipped decides. -/
theorem parse_cons_of_not_skipped {token : UInt32} (decides : ¬codes.Skipped token)
    (tokens : List UInt32) : codes.parse (token :: tokens) = codes.isReply token := by
  rw [parse]
  split_ifs with reply fault complete noop
  · exact reply.symm
  · simpa using reply
  · exact absurd ⟨by simpa using reply, by simpa using fault, .inl complete⟩ decides
  · exact absurd ⟨by simpa using reply, by simpa using fault, .inr noop⟩ decides
  · simpa using reply

/-- The answer to a ping has a reply, and only tokens that are skipped in front of it. -/
def Answers (codes : BinderCodes) (tokens : List UInt32) : Prop :=
  ∃ skipped reply rest, tokens = skipped ++ reply :: rest ∧
    (∀ token ∈ skipped, codes.Skipped token) ∧ codes.isReply reply = true

theorem parse_iff (tokens : List UInt32) : codes.parse tokens = true ↔ codes.Answers tokens := by
  induction tokens with
  | nil =>
      refine iff_of_false (by simp [parse]) ?_
      rintro ⟨skipped, reply, rest, split, -⟩
      simp at split
  | cons token tokens ih =>
      by_cases skips : codes.Skipped token
      · rw [parse_cons_of_skipped skips, ih]
        constructor
        · rintro ⟨skipped, reply, rest, rfl, before, here⟩
          refine ⟨token :: skipped, reply, rest, rfl, fun other member => ?_, here⟩
          rcases List.mem_cons.mp member with rfl | later
          · exact skips
          · exact before other later
        · rintro ⟨skipped, reply, rest, split, before, here⟩
          cases skipped with
          | nil =>
              obtain ⟨rfl, rfl⟩ := List.cons.inj split
              rw [skips.1] at here
              exact absurd here (by decide)
          | cons first skipped =>
              obtain ⟨rfl, rfl⟩ := List.cons.inj split
              exact ⟨skipped, reply, rest, rfl,
                fun other member => before other (List.mem_cons_of_mem _ member), here⟩
      · rw [parse_cons_of_not_skipped skips]
        constructor
        · exact fun reply => ⟨[], token, tokens, rfl, by simp, reply⟩
        · rintro ⟨skipped, reply, rest, split, before, here⟩
          cases skipped with
          | nil =>
              obtain ⟨rfl, -⟩ := List.cons.inj split
              exact here
          | cons first skipped =>
              obtain ⟨rfl, -⟩ := List.cons.inj split
              exact absurd (before token List.mem_cons_self) skips

/-- The codes that the header of the kernel makes with `_IO`, which carry no payload. -/
structure OfHeader (codes : BinderCodes) : Prop where
  brOk : codes.brOk = 0x7201
  brDeadReply : codes.brDeadReply = 0x7205
  brTransactionComplete : codes.brTransactionComplete = 0x7206
  brNoop : codes.brNoop = 0x720c
  brFailedReply : codes.brFailedReply = 0x7211
  /-- This one is made with `_IOR`, for a payload. -/
  brReply : 0x10000 ≤ codes.brReply

theorem OfHeader.not_brReply (header : codes.OfHeader) (code : UInt32) (small : code < 0x10000) :
    code ≠ codes.brReply := by
  rintro rfl
  exact absurd header.brReply (UInt32.not_le.mpr small)

/-- With these codes only `BR_NOOP` and `BR_OK` are skipped. -/
theorem OfHeader.skipped_iff (header : codes.OfHeader) (token : UInt32) :
    codes.Skipped token ↔ token = codes.brNoop ∨ token = codes.brOk := by
  have noopNoReply := header.not_brReply 0x720c (by decide)
  have okNoReply := header.not_brReply 0x7201 (by decide)
  obtain ⟨ok, dead, complete, noop, failed, -⟩ := header
  simp only [Skipped, isReply, isFault, isComplete, isNoop, ok, dead, complete, noop, failed,
    brReplyV7, brReplyV8, brReplyV7Actual, brTransactionCompleteV7, brOkV7, Bool.or_eq_false_iff,
    Bool.or_eq_true, beq_iff_eq, beq_eq_false_iff_ne]
  constructor
  · tauto
  · rintro (rfl | rfl)
    · exact ⟨⟨⟨⟨noopNoReply, by decide⟩, by decide⟩, by decide⟩, ⟨by decide, by decide⟩,
        .inl (.inr rfl)⟩
    · exact ⟨⟨⟨⟨okNoReply, by decide⟩, by decide⟩, by decide⟩, ⟨by decide, by decide⟩,
        .inr (.inl (.inr rfl))⟩

/-- One of the older names for a reply is what the kernel calls `BR_TRANSACTION_COMPLETE`: a ping
is answered once the driver has taken it over, whatever has come of it since. -/
theorem OfHeader.answers_iff (header : codes.OfHeader) (tokens : List UInt32) :
    codes.Answers tokens ↔ ∃ noops token rest, tokens = noops ++ token :: rest ∧
      (∀ other ∈ noops, other = codes.brNoop ∨ other = codes.brOk) ∧
        (token = codes.brTransactionComplete ∨ token = codes.brReply ∨ token = brReplyV7 ∨
          token = brReplyV8) := by
  have complete : codes.brTransactionComplete = brReplyV7Actual := header.brTransactionComplete
  have reply : ∀ token, codes.isReply token = true ↔
      token = codes.brTransactionComplete ∨ token = codes.brReply ∨ token = brReplyV7 ∨
        token = brReplyV8 := by
    intro token
    rw [complete]
    simp only [isReply, Bool.or_eq_true, beq_iff_eq]
    tauto
  unfold Answers
  simp only [header.skipped_iff, reply]

/-- The codes of a kernel of 64 bits. -/
def ofKernel : BinderCodes := ⟨0x80407203, 0x7205, 0x7211, 0x7206, 0x720c, 0x7201⟩

/-- A dead reply behind the hand-off. -/
theorem OfHeader.answers_iff_deadReply :
    ofKernel.Answers [0x720c, 0x7206, 0x7205] ↔ ∃ noops token rest,
      [0x720c, 0x7206, 0x7205] = noops ++ token :: rest ∧
        (∀ other ∈ noops, other = ofKernel.brNoop ∨ other = ofKernel.brOk) ∧
          (token = ofKernel.brTransactionComplete ∨ token = ofKernel.brReply ∨
            token = brReplyV7 ∨ token = brReplyV8) :=
  OfHeader.answers_iff ⟨rfl, rfl, rfl, rfl, rfl, by decide⟩ _

end BinderCodes

/-! ### The driver -/

/-- The layout of a transaction, which goes with its `ioctl` command. -/
inductive Layout where
  | v7
  | v8
  deriving DecidableEq, Repr

/-- `BinderTransaction`, with the fields that are set in its `binder_transaction_data`. -/
structure BinderTransaction where
  layout : Layout
  handle : UInt32
  code : UInt32
  flags : UInt32
  dataSize : UInt32
  offsetsSize : UInt32
  deriving DecidableEq, Repr

/-- The calls of the operating system and the constants of its header. -/
structure BinderDriver (σ : Type) where
  codes : BinderCodes
  tfAcceptFds : UInt32
  openDevice : σ → Option Nat × σ
  protocolVersion : Nat → σ → Option Int × σ
  mmap : Nat → Nat → σ → Option Nat × σ
  /-- The words that are read, of the 256 of the buffer. -/
  writeRead : Nat → BinderTransaction → σ → Option (List UInt32) × σ
  munmap : Nat → Nat → σ → σ
  close : Nat → σ → σ

/-- What happens to the device file and the mapped memory. -/
inductive DriverEvent where
  | opened (fd : Nat)
  | mapped (address size : Nat)
  | pinged (fd : Nat) (transaction : BinderTransaction)
  | unmapped (address size : Nat)
  | closed (fd : Nat)
  deriving DecidableEq, Repr

section Check

variable {σ : Type} (driver : BinderDriver σ)

def prepareV7Transaction : BinderTransaction := ⟨.v7, 0, pingTransaction, 0, 0, 0⟩

def prepareV8Transaction : BinderTransaction :=
  ⟨.v8, 0, pingTransaction, driver.tfAcceptFds, 0, 0⟩

def transactionOf (protocolVersion : Int) : BinderTransaction :=
  if protocolVersion = 7 then prepareV7Transaction else prepareV8Transaction driver

/-- `execute_binder_ping(binder_fd, protocol_version)`. -/
def executeBinderPing (fd : Nat) (protocolVersion : Int) (state : σ) :
    Bool × σ × List DriverEvent :=
  let transaction := transactionOf driver protocolVersion
  let called := driver.writeRead fd transaction state
  match called.1 with
  | none => (false, called.2, [.pinged fd transaction])
  | some words => (driver.codes.parse words, called.2, [.pinged fd transaction])

def binderMapSize (protocolVersion : Int) : Nat :=
  if protocolVersion = 7 then 128 * 1024 else 1024 * 1024

/-- `isServiceManagerAvailable()`. -/
def isServiceManagerAvailable (state : σ) : Bool × σ × List DriverEvent :=
  let opened := driver.openDevice state
  match opened.1 with
  | none => (false, opened.2, [])
  | some fd =>
    let version := driver.protocolVersion fd opened.2
    match version.1 with
    | none => (false, driver.close fd version.2, [.opened fd, .closed fd])
    | some protocolVersion =>
      let size := binderMapSize protocolVersion
      let mapped := driver.mmap fd size version.2
      match mapped.1 with
      | none => (false, driver.close fd mapped.2, [.opened fd, .closed fd])
      | some address =>
        let ping := executeBinderPing driver fd protocolVersion mapped.2
        let unmapped := driver.munmap address size ping.2.1
        (ping.1, driver.close fd unmapped,
          [.opened fd, .mapped address size] ++ ping.2.2 ++ [.unmapped address size, .closed fd])

/-- Whether the device file is open, and what is mapped of it. -/
inductive DriverMode where
  | closed
  | opened (fd : Nat)
  | mapped (fd address size : Nat)
  deriving DecidableEq, Repr

/-- The device is pinged while its memory is mapped, and all is given back. -/
def driverUsage : Usage DriverMode DriverEvent where
  next
    | .closed, .opened fd => some (.opened fd)
    | .opened fd, .mapped address size => some (.mapped fd address size)
    | .mapped fd address size, .pinged other _ =>
      if other = fd then some (.mapped fd address size) else none
    | .mapped fd address size, .unmapped other length =>
      if other = address ∧ length = size then some (.opened fd) else none
    | .opened fd, .closed other => if other = fd then some .closed else none
    | _, _ => none

theorem executeBinderPing_events (fd : Nat) (protocolVersion : Int) (state : σ) :
    (executeBinderPing driver fd protocolVersion state).2.2 =
      [.pinged fd (transactionOf driver protocolVersion)] := by
  unfold executeBinderPing
  dsimp only
  split <;> rfl

theorem executeBinderPing_iff (fd : Nat) (protocolVersion : Int) (state : σ) :
    (executeBinderPing driver fd protocolVersion state).1 = true ↔
      ∃ words, (driver.writeRead fd (transactionOf driver protocolVersion) state).1 = some words ∧
        driver.codes.Answers words := by
  unfold executeBinderPing
  cases pinged : (driver.writeRead fd (transactionOf driver protocolVersion) state).1 with
  | none => simp [pinged]
  | some words => simp [pinged, BinderCodes.parse_iff]

/-- The words that come back from a ping, where the driver has got so far. -/
def ReadsBack (state : σ) (words : List UInt32) : Prop :=
  ∃ fd protocolVersion address first second third,
    driver.openDevice state = (some fd, first) ∧
      driver.protocolVersion fd first = (some protocolVersion, second) ∧
        driver.mmap fd (binderMapSize protocolVersion) second = (some address, third) ∧
          (driver.writeRead fd (transactionOf driver protocolVersion) third).1 = some words

theorem follow_isServiceManagerAvailable (state : σ) :
    driverUsage.follow .closed (isServiceManagerAvailable driver state).2.2 = some .closed := by
  unfold isServiceManagerAvailable
  rcases driver.openDevice state with ⟨_ | fd, first⟩
  · rfl
  rcases versioning : driver.protocolVersion fd first with ⟨_ | protocolVersion, second⟩
  · simp [versioning, driverUsage, Usage.follow]
  rcases mapping : driver.mmap fd (binderMapSize protocolVersion) second with ⟨_ | address, third⟩
  · simp [versioning, mapping, driverUsage, Usage.follow]
  simp [versioning, mapping, executeBinderPing_events, driverUsage, Usage.follow]

/-- A service manager is found exactly when the driver is opened, versioned and mapped and the
words read back answer the ping; whichever of the calls fails, what was mapped is unmapped, and the
file is closed behind that. -/
theorem isServiceManagerAvailable_spec (state : σ) :
    ((isServiceManagerAvailable driver state).1 = true ↔
        ∃ words, ReadsBack driver state words ∧ driver.codes.Answers words) ∧
      driverUsage.follow .closed (isServiceManagerAvailable driver state).2.2 = some .closed := by
  refine ⟨?_, follow_isServiceManagerAvailable driver state⟩
  unfold isServiceManagerAvailable ReadsBack
  rcases opening : driver.openDevice state with ⟨_ | fd, first⟩
  · simp
  rcases versioning : driver.protocolVersion fd first with ⟨_ | protocolVersion, second⟩
  · simp [versioning]
  rcases mapping : driver.mmap fd (binderMapSize protocolVersion) second with ⟨_ | address, third⟩
  · simp [versioning, mapping]
  simp only [versioning, mapping]
  rw [executeBinderPing_iff]
  constructor
  · rintro ⟨words, pinged, answers⟩
    exact ⟨words, ⟨fd, protocolVersion, address, first, second, third, rfl, versioning, mapping,
      pinged⟩, answers⟩
  · rintro ⟨words, ⟨_, _, _, _, _, _, opened, versioned, mapped, pinged⟩, answers⟩
    simp only [Prod.mk.injEq, Option.some.injEq] at opened
    obtain ⟨rfl, rfl⟩ := opened
    rw [versioning] at versioned
    simp only [Prod.mk.injEq, Option.some.injEq] at versioned
    obtain ⟨rfl, rfl⟩ := versioned
    rw [mapping] at mapped
    simp only [Prod.mk.injEq, Option.some.injEq] at mapped
    obtain ⟨rfl, rfl⟩ := mapped
    exact ⟨words, pinged, answers⟩

end Check
end DeviceSettings.Backend
