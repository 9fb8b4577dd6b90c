import DoorControl.Board.Basic

/-!
The queues between the tasks: their creation, the event queue, which counts what it refuses, and the
mailbox for submissions. A queue that was not created refuses everything.
-/

namespace DoorControl

namespace Board

/-- Creates a queue unless there is one, and tells whether there is one now. -/
def ensureQueue (q : QueueName) : Program Board Bool := do
  if ← ask (.queueExists q) then pure true else ask (.createQueue q)

/-- Creates the queues that are missing; one that fails does not keep the next from being tried. -/
def ensureQueues : Program Board Bool := do
  let events ← ensureQueue .events
  let submissions ← ensureQueue .submissions
  let requests ← ensureQueue .requests
  pure (events && submissions && requests)

/-- Sends an event the way the caller's context asks for. -/
def sendEvent (e : Event) : Program Board Bool := do
  if ← ask .inInterrupt then
    let (sent, woken) ← ask (.sendEventFromInterrupt e)
    if woken then ask .yieldFromInterrupt
    pure sent
  else ask (.sendEvent e)

/-- Posts an event; one that is refused by a full queue is counted. -/
def postEvent (e : Event) : Program Board Bool := do
  if ← ask (.queueExists .events) then
    if ← sendEvent e then pure true
    else
      ask .countEventDrop
      pure false
  else pure false

def receiveEvent : Program Board (Option Event) := do
  if ← ask (.queueExists .events) then ask .receiveEvent else pure none

/-- The number of events that wait. -/
def eventDepth : Program Board Nat := do
  if ← ask (.queueExists .events) then ask .eventsWaiting else pure 0

def offerSubmission (s : Submission) : Program Board Bool := do
  if ← ask (.queueExists .submissions) then ask (.overwriteSubmission s) else pure false

def takeSubmission : Program Board (Option Submission) := do
  if ← ask (.queueExists .submissions) then ask .receiveSubmission else pure none

end Board

end DoorControl
