import Understudy.Log.Entry

/-!
# The request log

A `RequestLog` is a window on the requests that were answered: the latest ones, as many as it has room for, without those
at the front that are too old.
-/

namespace Understudy

/-- The latest requests, oldest first. -/
structure RequestLog where
  entries : List LogEntry
  /-- how many entries it has room for -/
  capacity : Option Nat
  /-- how long an entry stays -/
  maxAge : Option Duration

namespace RequestLog

def empty (capacity : Option Nat) (maxAge : Option Duration) : RequestLog :=
  { entries := [], capacity, maxAge }

/-- Entries of requests before this instant are too old; none is when an age reaches out of the calendar. -/
def cutoff? (log : RequestLog) (now : Instant) : Option Instant := log.maxAge.bind now.minus?

def expire (log : RequestLog) (now : Instant) : RequestLog :=
  match log.cutoff? now with
  | some cutoff => { log with entries := log.entries.dropWhile fun e => e.request.at_.before cutoff }
  | none => log

def trim (log : RequestLog) : RequestLog :=
  match log.capacity with
  | some n => { log with entries := log.entries.drop (log.entries.length - n) }
  | none => log

def append (log : RequestLog) (e : LogEntry) (now : Instant) : RequestLog :=
  ({ log with entries := log.entries ++ [e] } : RequestLog).trim.expire now

def clear (log : RequestLog) : RequestLog := { log with entries := [] }

def size (log : RequestLog) : Nat := log.entries.length

end RequestLog

end Understudy
