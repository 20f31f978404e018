/-
  Intake.Proofs.Load.Carried — imports with a database that does its work by other means.

  An import uses a database only by its requests, so two databases that answer alike make the same of
  it, and what is known of its requests is known of what was done for them.

  Proved:
  - `copyChunks_parallel`, `copyWithoutMark_parallel`: a copy into two sinks that take alike.
  - `stream_parallel`, `importFile_parallel`: a load and an import with two databases.
  - `importFile_carried`: what was done for an import serves its requests, one after the other.
-/

import Intake.Proofs.Database.Parallel
import Intake.Proofs.Load.Import

namespace Intake.Stream

open Database (Parallel parallel_pure)

variable {σ τ : Type} {R : σ → τ → Prop} {sink : Sink σ} {sink' : Sink τ}

theorem writePieces_parallel (h : ∀ bytes, Parallel R (sink.write bytes) (sink'.write bytes)) (ps : List (List UInt8)) :
    Parallel R (writePieces sink ps).run (writePieces sink' ps).run := by
  induction ps with
  | nil => exact parallel_pure _
  | cons p ps ih => exact Parallel.bind (h p) fun _ => ih

theorem copyAfter_parallel (h : ∀ bytes, Parallel R (sink.write bytes) (sink'.write bytes)) (bytes : List UInt8)
    {rest : ExceptT String (StateM σ) Nat} {rest' : ExceptT String (StateM τ) Nat}
    (hrest : Parallel R rest.run rest'.run) :
    Parallel R (do
        writePieces sink (pieces bytes)
        let copied ← rest
        return bytes.length + copied : ExceptT String (StateM σ) Nat).run
      (do
        writePieces sink' (pieces bytes)
        let copied ← rest'
        return bytes.length + copied : ExceptT String (StateM τ) Nat).run := by
  refine Parallel.bind (writePieces_parallel h (pieces bytes)) fun _ => ?_
  exact Parallel.bind hrest fun _ => parallel_pure _

theorem copyChunks_parallel (h : ∀ bytes, Parallel R (sink.write bytes) (sink'.write bytes))
    (hflush : Parallel R sink.flush sink'.flush) (events : List ReadEvent) :
    Parallel R (copyChunks sink events).run (copyChunks sink' events).run := by
  induction events with
  | nil => exact Parallel.bind hflush fun _ => parallel_pure _
  | cons event events ih =>
    cases event with
    | data bytes => exact copyAfter_parallel h bytes ih
    | interrupted => exact ih
    | failed m => exact parallel_pure _

theorem copyWithoutMark_parallel (h : ∀ bytes, Parallel R (sink.write bytes) (sink'.write bytes))
    (hflush : Parallel R sink.flush sink'.flush) (c : Charset) (events : List ReadEvent) :
    Parallel R (copyWithoutMark c sink events).run (copyWithoutMark c sink' events).run := by
  refine Database.parallel_settled fun (head, rest) => ?_
  exact copyAfter_parallel h (head.drop (c.ownMarkLength head)) (copyChunks_parallel h hflush rest)

end Intake.Stream

namespace Intake.Load

open Database (Exchange Parallel Parallels parallel_pure parallel_settled Traced Carries Runs)
open Storage (Files)

variable {σ τ ξ : Type} {R : σ → τ → Prop} {db : Database σ} {db' : Database τ}

theorem parallel_lift {ε α β : Type} {wrap : ε → LoadError} {x : StateM σ (Except ε α)}
    {y : StateM τ (Except ε α)} {f : α → Step σ β} {g : α → Step τ β} (h : Parallel R x y)
    (hnext : ∀ a, Parallel R (f a).run (g a).run) :
    Parallel R (Step.lift wrap x >>= f).run (Step.lift wrap y >>= g).run :=
  Parallel.bind (h.bindState fun _ => parallel_pure _) hnext

theorem send_parallel (h : Parallels R db db') (source : Source) :
    Parallel R (send db source).run (send db' source).run := by
  cases source with
  | direct charset events => exact Stream.copyWithoutMark_parallel h.write h.flush charset events
  | transcoded text => exact Stream.copyChunks_parallel h.write h.flush _

theorem stream_parallel (h : Parallels R db db') (table : Database.Table) (p : Prepared) (source : Source) :
    Parallel R (stream db table p source).run (stream db' table p source).run := by
  refine parallel_settled fun command => ?_
  refine parallel_lift (h.copyIn command) fun _ => ?_
  refine parallel_lift (send_parallel h source) fun _ => ?_
  exact h.finish.bindState fun _ => parallel_pure _

theorem importFile_parallel [Codecs] (h : Parallels R db db') (files : Files) (r : Request) :
    Parallel R (importFile db files r).run (importFile db' files r).run := by
  refine parallel_settled fun _ => ?_
  refine parallel_settled fun p => ?_
  refine parallel_settled fun source => ?_
  refine parallel_lift (h.createTable _) fun table => ?_
  exact Parallel.bind (stream_parallel h table p source) fun _ => parallel_pure _

theorem importFile_carried [Codecs] {serves : Exchange → List ξ → Prop} {db' : Database (Traced σ ξ)}
    (h : Carries serves db db') (files : Files) (r : Request) :
    Runs (importFile db files r).run (importFile db' files r).run fun outcome log =>
      ∃ asked logs, Imports files r outcome asked ∧ List.Forall₂ serves asked logs ∧ log = logs.flatten :=
  (importFile_runs db files r).carried fun log => importFile_parallel (h.parallel log) files r

end Intake.Load
