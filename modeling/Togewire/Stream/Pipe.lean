import Mathlib.Data.List.Infix
import Togewire.Foundation.Broadcast

/-!
# Playback pipes

One pipe carries one playback generation.  Its producer stores and broadcasts every page under
the prefix lock, and a subscription takes the stored prefix and the receiver under the same lock,
so each of the three operations is one atomic step.
-/

namespace Togewire.Stream

open Broadcast

/-- Contents of one broadcast message. -/
abbrev Bytes := List UInt8

/-- `MAX_BURST_BUFFER`: bytes of recent pages handed to a new listener. -/
def maxBurstBuffer : Nat := 128 * 1024

/-- `LIVE_BACKLOG`: pages a listener of the live input may fall behind by. -/
def liveBacklog : Nat := 2048

/-- `FILE_BACKLOG`: pages a listener of a cached file may fall behind by. -/
def fileBacklog : Nat := 64

/-- What a new listener is handed before the broadcast. -/
structure Prefix where
  /-- Header pages, once the producer has read them. -/
  headers : Option Bytes
  /-- Recent pages, oldest first. -/
  burst : List Bytes
  /-- Running byte count of the burst. -/
  burstLen : Nat
  deriving DecidableEq

/-- The trimming loop of `send`: drop the oldest pages while the burst is over its limit. -/
def trimBurst : List Bytes → Nat → List Bytes × Nat
  | [], burstLen => ([], burstLen)
  | old :: burst, burstLen =>
      if maxBurstBuffer < burstLen then
        trimBurst burst (burstLen - old.length)
      else
        (old :: burst, burstLen)

theorem trimBurst_suffix (burst : List Bytes) (burstLen : Nat) :
    (trimBurst burst burstLen).1 <:+ burst := by
  induction burst generalizing burstLen with
  | nil => exact List.suffix_rfl
  | cons old burst ih =>
      unfold trimBurst
      split
      · exact (ih _).trans (List.suffix_cons old burst)
      · exact List.suffix_rfl

/-- One playback generation. -/
structure Pipe where
  /-- Capacity of the broadcast channel. -/
  backlog : Nat
  /-- Everything sent on the channel, oldest first. -/
  sent : List Bytes
  /-- Whether the pipe has been retired. -/
  shutdown : Bool
  /-- Stored headers and recent pages. -/
  stored : Prefix
  deriving DecidableEq

namespace Pipe

/-- An unused pipe. -/
def new (backlog : Nat) : Pipe where
  backlog := backlog
  sent := []
  shutdown := false
  stored := { headers := none, burst := [], burstLen := 0 }

/-- Store and broadcast the header pages. -/
def setHeaders (pipe : Pipe) (headers : Bytes) : Pipe :=
  { pipe with
    stored := { pipe.stored with headers := some headers }
    sent := pipe.sent ++ [headers] }

/-- Store a page in the burst, trim the burst, and broadcast the page. -/
def send (pipe : Pipe) (page : Bytes) : Pipe :=
  let trimmed := trimBurst (pipe.stored.burst ++ [page]) (pipe.stored.burstLen + page.length)
  { pipe with
    stored := { pipe.stored with burst := trimmed.1, burstLen := trimmed.2 }
    sent := pipe.sent ++ [page] }

/-- A receiver for everything sent from now on, and the prefix to play before it. -/
def subscribe (pipe : Pipe) : Receiver Bytes × List Bytes :=
  (Receiver.subscribe pipe.sent, pipe.stored.headers.toList ++ pipe.stored.burst)

/-- Cancel the pipe's shutdown token. -/
def retire (pipe : Pipe) : Pipe := { pipe with shutdown := true }

end Pipe

/-! ## What a producer has put on its pipe -/

/-- Where the pages of one generation come from. -/
inductive Source
  /-- No producer: the initial pipe, and the one left by `stop`. -/
  | silence
  /-- A connected togedemon. -/
  | live
  /-- A cached file, from a position in milliseconds. -/
  | file (path : String) (seekMs : Int)
  deriving DecidableEq

/-- The producer of one generation, with the calls it has made on its pipe so far. -/
structure Producer where
  /-- What the producer reads. -/
  source : Source
  /-- The argument of its `setHeaders` call. -/
  headers : Option Bytes
  /-- The arguments of its `send` calls, oldest first. -/
  pages : List Bytes
  deriving DecidableEq

namespace Producer

/-- A producer which has not called its pipe yet. -/
def idle (source : Source) : Producer := { source, headers := none, pages := [] }

/-- A pipe holds what its producer has put on it: the headers, then every page, with the burst a
tail of the pages. -/
structure Feeds (producer : Producer) (pipe : Pipe) : Prop where
  /-- The channel carried the headers first, then the pages in order. -/
  sent : pipe.sent = producer.headers.toList ++ producer.pages
  /-- The stored headers are the ones the producer set. -/
  headers : pipe.stored.headers = producer.headers
  /-- The burst is a tail of the pages. -/
  burst : pipe.stored.burst <:+ producer.pages
  /-- No page precedes the headers. -/
  opening : producer.headers = none → producer.pages = []

theorem idle_feeds (source : Source) (backlog : Nat) :
    (idle source).Feeds (Pipe.new backlog) where
  sent := rfl
  headers := rfl
  burst := List.suffix_rfl
  opening _ := rfl

theorem Feeds.retire {producer : Producer} {pipe : Pipe} (feeds : producer.Feeds pipe) :
    producer.Feeds pipe.retire :=
  ⟨feeds.sent, feeds.headers, feeds.burst, feeds.opening⟩

theorem Feeds.setHeaders {producer : Producer} {pipe : Pipe} (feeds : producer.Feeds pipe)
    (unset : producer.headers = none) (headers : Bytes) :
    { producer with headers := some headers }.Feeds (pipe.setHeaders headers) where
  sent := by simp [Pipe.setHeaders, feeds.sent, unset, feeds.opening unset]
  headers := rfl
  burst := feeds.burst
  opening := by simp

theorem Feeds.send {producer : Producer} {pipe : Pipe} (feeds : producer.Feeds pipe)
    (set : producer.headers ≠ none) (page : Bytes) :
    { producer with pages := producer.pages ++ [page] }.Feeds (pipe.send page) where
  sent := by simp [Pipe.send, feeds.sent]
  headers := feeds.headers
  burst := (trimBurst_suffix _ _).trans (suffix_concat page feeds.burst)
  opening := fun unset => absurd unset set

end Producer

end Togewire.Stream
