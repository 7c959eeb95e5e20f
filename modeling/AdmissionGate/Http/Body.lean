/-!
# Bodies

A body arrives over time: in chunks, each some time after the one before, and then it ends, breaks off or stays away.  It
is read against a limit on its size and a timeout on each wait.  The timer of a wait starts anew with each chunk, and a
chunk that arrives just when the timer goes off is too late; the limit is checked when a chunk is there.
-/

namespace AdmissionGate.Http

/-- A part of a body. -/
structure Chunk where
  /-- The time since the part before, in milliseconds. -/
  delay : Nat
  octets : List UInt8
deriving DecidableEq, Repr

/-- What follows the last chunk of a body. -/
inductive BodyEnd where
  | complete
  /-- The transfer fails. -/
  | broken
  /-- Nothing more ever arrives. -/
  | silent
deriving DecidableEq, Repr

/-- A body as it arrives. -/
structure Body where
  chunks : List Chunk
  ending : BodyEnd
deriving DecidableEq, Repr

/-- Why a body could not be read. -/
inductive BodyFailure where
  | tooLarge
  | broken
  | timedOut
deriving DecidableEq, Repr

namespace BodyFailure

/-- The status that an unreadable body is refused with. -/
def status : BodyFailure → Nat
  | tooLarge => 413
  | broken => 400
  | timedOut => 408

end BodyFailure

namespace Body

def ofOctets (octets : List UInt8) : Body :=
  ⟨if octets = [] then [] else [⟨0, octets⟩], .complete⟩

def octets (body : Body) : List UInt8 :=
  (body.chunks.map Chunk.octets).flatten

/-- When reading comes to an end, and why it fails if it does: from some time on, with room for some octets. -/
def follow (timeout : Nat) (ending : BodyEnd) (now room : Nat) : List Chunk → Nat × Option BodyFailure
  | [] =>
    match ending with
    | .complete => if timeout = 0 then (now, some .timedOut) else (now, none)
    | .broken => if timeout = 0 then (now, some .timedOut) else (now, some .broken)
    | .silent => (now + timeout, some .timedOut)
  | chunk :: rest =>
    if timeout ≤ chunk.delay then (now + timeout, some .timedOut)
    else if room < chunk.octets.length then (now + chunk.delay, some .tooLarge)
    else follow timeout ending (now + chunk.delay) (room - chunk.octets.length) rest

/-- Read a body of at most `limit` octets: when that is done, and what it gives. -/
def read (limit timeout : Nat) (body : Body) : Nat × Except BodyFailure (List UInt8) :=
  match follow timeout body.ending 0 limit body.chunks with
  | (time, none) => (time, .ok body.octets)
  | (time, some failure) => (time, .error failure)

end Body

end AdmissionGate.Http
