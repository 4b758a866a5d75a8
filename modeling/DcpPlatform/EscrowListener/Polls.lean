import DcpPlatform.EscrowListener.Handlers

/-!
# The polls of the escrow listener

A poll reads the cursor, fetches the logs of one chunk of blocks after
another, handles them in order and saves the last block of the chunk as the
cursor. The timer does not wait, so polls overlap. The logs are those of final
blocks.
-/

namespace DcpPlatform.EscrowListener

open Foundation

section Polls

variable (Hash : Type)

structure Settings where
  logs : List (Log Hash)
  blockChunkSize : Nat
  confirmationBlocks : Nat
  startBlock : Option Nat

/-- A poll at the first block of a chunk. `chunk` is nothing while the call
for its logs is under way, and then the logs that are still to be handled. -/
structure Poll where
  cursor : Nat
  safeBlock : Nat
  chunk : Option (List (Log Hash))

/-- `deeds` is what the handlers have written for a log; it is kept for
reasoning only. -/
structure System where
  db : Database
  lastBlock : Nat
  polls : List (Poll Hash)
  deeds : List (Log Hash × Deed)

end Polls

def Settings.standard {Hash : Type} (logs : List (Log Hash))
    (startBlock : Option Nat) : Settings Hash :=
  { logs := logs
    blockChunkSize := 500
    confirmationBlocks := 2
    startBlock := startBlock }

inductive PollAction where
  | poll (latestBlock : Nat)
  | fetch (index : Nat)
  | handle (index : Nat) (met : Circumstances)
  | save (index : Nat)
  | abort (index : Nat)
  | crash

section Next

variable {Hash : Type} [DecidableEq Hash] (keccak256 : String → Hash) (settings : Settings Hash)

def Settings.safeBlock (latestBlock : Nat) : Nat :=
  latestBlock - settings.confirmationBlocks

/-- The cursor zero stands for a first run. -/
def System.fromBlock (system : System Hash) (latestBlock : Nat) : Nat :=
  if system.lastBlock = 0 then
    settings.startBlock.getD (settings.safeBlock latestBlock)
  else
    system.lastBlock + 1

def Poll.chunkEnd (poll : Poll Hash) : Nat :=
  min (poll.cursor + settings.blockChunkSize - 1) poll.safeBlock

def Poll.covers (poll : Poll Hash) (log : Log Hash) : Prop :=
  poll.cursor ≤ log.blockNumber ∧ log.blockNumber ≤ poll.chunkEnd settings

instance (poll : Poll Hash) (log : Log Hash) :
    Decidable (poll.covers settings log) :=
  inferInstanceAs (Decidable (_ ∧ _))

def Poll.fetched (poll : Poll Hash) : Poll Hash :=
  { poll with
    chunk := some (settings.logs.filter (poll.covers settings)) }

def Poll.advanced (poll : Poll Hash) : Option (Poll Hash) :=
  let cursor := poll.chunkEnd settings + 1
  if cursor ≤ poll.safeBlock then
    some { poll with cursor := cursor, chunk := none }
  else
    none

def replacePoll (polls : List (Poll Hash)) (index : Nat) :
    Option (Poll Hash) → List (Poll Hash)
  | some poll => polls.set index poll
  | none => polls.eraseIdx index

def System.handled (system : System Hash) (index : Nat) (poll : Poll Hash)
    (log : Log Hash) (rest : List (Log Hash)) (met : Circumstances) :
    System Hash :=
  { system with
    db := (handleLog keccak256 system.db log met).1
    polls := system.polls.set index { poll with chunk := some rest }
    deeds :=
      system.deeds ++ (handleLog keccak256 system.db log met).2.map (fun deed => (log, deed)) }

def nextPoll (system : System Hash) : PollAction → Option (System Hash)
  | .poll latestBlock =>
    let safeBlock := settings.safeBlock latestBlock
    let fromBlock := system.fromBlock settings latestBlock
    if safeBlock < fromBlock then
      some system
    else
      some { system with
        polls := system.polls ++
          [{ cursor := fromBlock, safeBlock := safeBlock,
             chunk := none }] }
  | .fetch index =>
    match system.polls[index]? with
    | some poll =>
      if poll.chunk = none then
        some { system with
          polls := system.polls.set index (poll.fetched settings) }
      else
        none
    | none => none
  | .handle index met =>
    match system.polls[index]? with
    | some poll =>
      match poll.chunk with
      | some (log :: rest) =>
        some (system.handled keccak256 index poll log rest met)
      | _ => none
    | none => none
  | .save index =>
    match system.polls[index]? with
    | some poll =>
      if poll.chunk = some [] then
        some { system with
          lastBlock := poll.chunkEnd settings
          polls := replacePoll system.polls index (poll.advanced settings) }
      else
        none
    | none => none
  | .abort index =>
    some { system with polls := system.polls.eraseIdx index }
  | .crash => some { system with polls := [] }

end Next

end DcpPlatform.EscrowListener
