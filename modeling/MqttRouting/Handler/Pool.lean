import MqttRouting.Handler.Task
import MqttRouting.Notice

/-!
Handlers at work. Each message gets a job of its own, which runs as far as it can: to
the end of its task or to where it waits for a permit. Permits go to the waiting jobs
in the order in which they began to wait; what is left over is kept for later ones.
-/

namespace MqttRouting

variable {ν : Type}

namespace Task

inductive Stop (ν : Type) where
  | finished (outcome : Except HandlerError Unit)
  | crashed
  /-- Waiting for a permit, and what comes then. -/
  | waiting (next : Task ν)

/-- How far a task gets: what it notes, the permits it leaves and where it stops. -/
structure Progress (ν : Type) where
  notes : List ν
  permits : Nat
  stop : Stop ν

def advance (permits : Nat) : Task ν → Progress ν
  | .finished outcome => ⟨[], permits, .finished outcome⟩
  | .crashed => ⟨[], permits, .crashed⟩
  | .note what next =>
    let progress := next.advance permits
    { progress with notes := what :: progress.notes }
  | .waiting next =>
    match permits with
    | 0 => ⟨[], 0, .waiting next⟩
    | permits + 1 => next.advance permits

end Task

structure Job (ν : Type) where
  topic : String
  wireTopic : String
  owner : String
  task : Task ν

namespace Job

inductive Status where
  | done
  | crashed
  | pending
  deriving DecidableEq

/-- A waiting job with what it does once it has its permit. -/
structure Waiting (ν : Type) where
  job : Job ν
  next : Task ν

end Job

/-- What handlers leave behind while they run. -/
structure Activity (ν : Type) where
  notes : List ν := []
  notices : List Notice := []

def Activity.append (a b : Activity ν) : Activity ν := ⟨a.notes ++ b.notes, a.notices ++ b.notices⟩

structure Pool (ν : Type) where
  permits : Nat := 0
  waiting : List (Job.Waiting ν) := []

namespace Pool

def failureNotice (job : Job ν) : Except HandlerError Unit → List Notice
  | .ok () => []
  | .error e => [.handlerFailed job.topic job.wireTopic job.owner e.message]

/-- Runs a task of a job as far as it gets. -/
def run (pool : Pool ν) (job : Job ν) (task : Task ν) : Job.Status × Activity ν × Pool ν :=
  let progress := task.advance pool.permits
  let pool := { pool with permits := progress.permits }
  match progress.stop with
  | .finished outcome => (.done, ⟨progress.notes, failureNotice job outcome⟩, pool)
  | .crashed => (.crashed, ⟨progress.notes, []⟩, pool)
  | .waiting next =>
    (.pending, ⟨progress.notes, []⟩, { pool with waiting := pool.waiting ++ [⟨job, next⟩] })

def start (pool : Pool ν) (job : Job ν) : Job.Status × Activity ν × Pool ν :=
  pool.run job job.task

/-- Gives out permits one at a time while anybody waits. -/
def serve : Nat → Pool ν → List Job.Status × Activity ν × Pool ν
  | 0, pool => ([], {}, pool)
  | n + 1, pool =>
    match pool.waiting with
    | [] => ([], {}, { pool with permits := pool.permits + (n + 1) })
    | ⟨job, next⟩ :: rest =>
      let (status, activity, pool) := run { pool with waiting := rest } job next
      let (statuses, more, pool) := serve n pool
      (status :: statuses, activity.append more, pool)

/-- Adds permits and lets handlers run. -/
def release (pool : Pool ν) (n : Nat) : List Job.Status × Activity ν × Pool ν := serve n pool

end Pool
end MqttRouting
