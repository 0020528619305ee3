import SocketBridge.Cancel

/-!
# Tokens and their clones

Tokens are named by numbers. A clone stands for the token that it was made from: whoever cancels one
cancels both. Work that is raced against a token is polled between the calls of those who hold
tokens, and may cancel its own while it is polled.
-/

namespace SocketBridge

structure Tokens where
  /-- For each token the one that it stands for, which is itself if it is no clone. -/
  origins : List Nat := []
  /-- The tokens that were cancelled, themselves or through a clone. -/
  cancelled : List Nat := []
deriving DecidableEq

namespace Tokens

def create (t : Tokens) : Tokens := { t with origins := t.origins ++ [t.origins.length] }

def clone (t : Tokens) (token : Nat) : Tokens :=
  { t with origins := t.origins ++ (t.origins[token]?).toList }

def cancel (t : Tokens) (token : Nat) : Tokens :=
  match t.origins[token]? with
  | none => t
  | some origin => { t with cancelled := t.cancelled.insert origin }

def isCancelled (t : Tokens) (token : Nat) : Bool :=
  (t.origins[token]?).any fun origin => t.cancelled.contains origin

end Tokens

/-- What may happen while work is raced against a token. -/
inductive TokenEvent
  | create
  | clone (token : Nat)
  | cancel (token : Nat)
  | poll
deriving DecidableEq

/-- A race against one of the tokens. -/
structure TokenRace (α ε : Type) where
  tokens : Tokens
  token : Nat
  race : Race α ε

namespace TokenRace

variable {α ε : Type}

def start (tokens : Tokens) (token : Nat) (work : Nat → Poll α ε) : TokenRace α ε :=
  { tokens, token, race := { work } }

def step (r : TokenRace α ε) : TokenEvent → TokenRace α ε
  | .create => { r with tokens := r.tokens.create }
  | .clone token => { r with tokens := r.tokens.clone token }
  | .cancel token => { r with tokens := r.tokens.cancel token }
  | .poll =>
    let race := { r.race with cancelled := r.tokens.isCancelled r.token }.step .poll
    { r with tokens := if race.cancelled then r.tokens.cancel r.token else r.tokens, race }

def run (r : TokenRace α ε) (events : List TokenEvent) : TokenRace α ε := events.foldl step r

end TokenRace

end SocketBridge
