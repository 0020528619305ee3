import SocketBridge.Connect
import SocketBridge.Proofs.Cancel

/-!
# Attempts in turn

A connect learns its targets from what it is given, or from the lookup of a name, and tries them in
their order. Its attempts that have ended determine which target is next, or the result.
-/

namespace SocketBridge

/-- What the host answers to the lookup of a name. -/
abbrev LookupAnswer := Except LookupFailure (List SocketAddr)

/-- A poll of an attempt. The stream that it gives has ends, or they cannot be told. -/
abbrev AttemptPoll := Poll (Except String Link) String

/-- An attempt that has ended: without a stream, or with one. -/
abbrev AttemptEnding := Except String (Except String Link)

/-- What a program connects to. -/
inductive Destination
  | address (address : SocketAddr)
  | name (host : String) (port : UInt16)

/-- The addresses that a lookup found, with the port that was asked for; a failed one finds none. -/
def foundTargets (port : UInt16) : LookupAnswer → List SocketAddr
  | .ok found => found.map (·.withPort port)
  | .error _ => []

namespace Destination

def start (task : Task) : Destination → Connect
  | address a => .toAddress task a
  | name host port => .toHost task host port

/-- The addresses to try, once they are known. -/
def targets? (looked : List LookupAnswer) : Destination → Option (List SocketAddr)
  | address a => some [a]
  | name host port =>
    (Ip.ofLiteral? host.toList).elim (looked.head?.map (foundTargets port)) fun ip =>
      some [.ofIp ip port]

variable {host : String} {port : UInt16} {looked : List LookupAnswer}

theorem targets?_of_literal {ip : Ip} (literal : Ip.ofLiteral? host.toList = some ip) :
    (name host port).targets? looked = some [.ofIp ip port] := by
  rw [targets?, literal, Option.elim_some]

theorem targets?_of_name (named : Ip.ofLiteral? host.toList = none) :
    (name host port).targets? looked = looked.head?.map (foundTargets port) := by
  rw [targets?, named, Option.elim_none]

end Destination

/-- The attempts that the polls of attempts have ended. -/
def endings (polls : List (SocketAddr × AttemptPoll)) : List (SocketAddr × AttemptEnding) :=
  polls.filterMap fun p => p.2.ending?.map (p.1, ·)

@[simp] theorem endings_append (polls more : List (SocketAddr × AttemptPoll)) :
    endings (polls ++ more) = endings polls ++ endings more := List.filterMap_append

@[simp] theorem endings_nil : endings [] = [] := rfl

theorem endings_singleton (a : SocketAddr) (poll : AttemptPoll) :
    endings [(a, poll)] = (poll.ending?.map (a, ·)).toList := by
  cases ended : poll.ending? <;> simp [endings, ended]

/-- Each poll is of the target that comes after those whose attempts ended before. -/
def InTurn (targets : List SocketAddr) (polls : List (SocketAddr × AttemptPoll)) : Prop :=
  ∀ before a poll after, polls = before ++ (a, poll) :: after →
    targets[(endings before).length]? = some a

theorem InTurn.nil (targets : List SocketAddr) : InTurn targets [] := by
  intro before a poll after same
  cases before <;> cases same

theorem InTurn.concat {targets : List SocketAddr} {polls : List (SocketAddr × AttemptPoll)}
    (inTurn : InTurn targets polls) {a : SocketAddr} (poll : AttemptPoll)
    (next : targets[(endings polls).length]? = some a) : InTurn targets (polls ++ [(a, poll)]) := by
  intro before b poll' after same
  rcases after.eq_nil_or_concat with rfl | ⟨after, last, rfl⟩
  · obtain ⟨rfl, one⟩ := List.append_inj' same rfl
    cases one
    exact next
  · rw [List.concat_eq_append, ← List.cons_append, ← List.append_assoc] at same
    exact inTurn before b poll' after (List.append_inj_left' same rfl)

/-- An attempt that came to nothing, as an attempt that has ended. -/
def failedAttempt (f : SocketAddr × String) : SocketAddr × AttemptEnding := (f.1, .error f.2)

/-- Which attempts come to which result: those before the first that gives a stream all fail, and
without one all targets are tried. -/
inductive Concludes :
    List SocketAddr → List (SocketAddr × AttemptEnding) → Except String Link → Prop
  | nowhere : Concludes [] [] (.error unresolvedHost)
  | connects (failed : List (SocketAddr × String)) (a : SocketAddr) (after : List SocketAddr)
      (result : Except String Link) :
    Concludes (failed.map Prod.fst ++ a :: after)
      (failed.map failedAttempt ++ [(a, .ok result)]) result
  | exhausts (failed : List (SocketAddr × String)) (a : SocketAddr) (text : String) :
    Concludes (failed.map Prod.fst ++ [a]) (failed.map failedAttempt ++ [(a, .error text)])
      (.error text)

/-- Which attempts come to no result: all have failed, and there is a target left. -/
inductive Continues : List SocketAddr → List (SocketAddr × AttemptEnding) → SocketAddr → Prop
  | next (failed : List (SocketAddr × String)) (a : SocketAddr) (after : List SocketAddr) :
    Continues (failed.map Prod.fst ++ a :: after) (failed.map failedAttempt) a

/-- While a target is left and all attempts have failed there is no result. -/
theorem Continues.not_concludes {targets : List SocketAddr}
    {ended : List (SocketAddr × AttemptEnding)} {a : SocketAddr}
    (continues : Continues targets ended a) (result : Except String Link) :
    ¬Concludes targets ended result := by
  intro concludes
  obtain ⟨failed, a, after⟩ := continues
  generalize line : failed.map Prod.fst ++ a :: after = targets at concludes
  generalize tried : failed.map failedAttempt = ended at concludes
  cases concludes with
  | nowhere => exact absurd line (by simp)
  | connects failed' b after' result =>
    -- the last attempt gave a stream, but all have failed
    have member : (b, Except.ok result) ∈ failed.map failedAttempt := by simp [tried]
    obtain ⟨f, -, same⟩ := List.mem_map.mp member
    cases same
  | exhausts failed' b text =>
    -- all targets were tried, but there is one more than there are failures
    have lengths := congrArg List.length line
    have lengths' := congrArg List.length tried
    simp only [List.length_append, List.length_map, List.length_cons, List.length_nil]
      at lengths lengths'
    omega

theorem not_continues_nil {ended : List (SocketAddr × AttemptEnding)} {a : SocketAddr} :
    ¬Continues [] ended a := by
  intro continues
  generalize empty : ([] : List SocketAddr) = targets at continues
  cases continues
  exact absurd empty (by simp)

/-- Without a target the result is that the host is not resolved. -/
theorem Concludes.of_nil {ended : List (SocketAddr × AttemptEnding)} {result : Except String Link}
    (concludes : Concludes [] ended result) : result = .error unresolvedHost := by
  generalize empty : ([] : List SocketAddr) = targets at concludes
  cases concludes with
  | nowhere => rfl
  | connects | exhausts => exact absurd empty (by simp)

/-- The stream of a result is what an attempt at one of the targets gave. -/
theorem Concludes.attempt {targets : List SocketAddr} {ended : List (SocketAddr × AttemptEnding)}
    {link : Link} (concludes : Concludes targets ended (.ok link)) :
    ∃ a ∈ targets, (a, .ok (.ok link)) ∈ ended := by
  generalize opened : Except.ok link = result at concludes
  cases concludes with
  | nowhere | exhausts => cases opened
  | connects failed a after result =>
    subst opened
    exact ⟨a, by simp, by simp⟩

theorem exists_poll_of_mem_endings {polls : List (SocketAddr × AttemptPoll)} {a : SocketAddr}
    {ending : AttemptEnding} (member : (a, ending) ∈ endings polls) :
    ∃ poll, (a, poll) ∈ polls ∧ poll.ending? = some ending := by
  obtain ⟨⟨b, poll⟩, polled, same⟩ := List.mem_filterMap.mp member
  obtain ⟨ending', ended, same⟩ := Option.map_eq_some_iff.mp same
  cases same
  exact ⟨poll, polled, ended⟩

theorem InTurn.eq_nil {polls : List (SocketAddr × AttemptPoll)} (inTurn : InTurn [] polls) :
    polls = [] := by
  cases polls with
  | nil => rfl
  | cons p polls => cases inTurn [] p.1 p.2 polls rfl

theorem Continues.getElem? {targets : List SocketAddr} {ended : List (SocketAddr × AttemptEnding)}
    {a : SocketAddr} (continues : Continues targets ended a) : targets[ended.length]? = some a := by
  obtain ⟨failed, a, after⟩ := continues
  simp

/-- A connect that goes on: it waits for its lookup, or its attempts so far have failed. -/
inductive Carries (dest : Destination) (task : Task) :
    Connect → List LookupAnswer → List (SocketAddr × AttemptEnding) → Prop
  | lookup (host : String) (port : UInt16) (named : dest = .name host port)
      (unnumbered : Ip.ofLiteral? host.toList = none) :
    Carries dest task ⟨task, .lookup host port, []⟩ [] []
  | attempts (looked : List LookupAnswer) (failed : List (SocketAddr × String)) (a : SocketAddr)
      (after : List SocketAddr) (text : String)
      (known : dest.targets? looked = some (failed.map Prod.fst ++ a :: after)) :
    Carries dest task ⟨task, .attempts (a :: after) text, failed.map Prod.fst⟩ looked
      (failed.map failedAttempt)

/-- What a connect has learned and tried without coming to a result. -/
def Undecided (dest : Destination) (looked : List LookupAnswer)
    (ended : List (SocketAddr × AttemptEnding)) : Prop :=
  (dest.targets? looked = none ∧ ended = []) ∨
    ∃ targets a, dest.targets? looked = some targets ∧ Continues targets ended a

variable {dest : Destination} {task : Task} {c : Connect} {looked : List LookupAnswer}
  {ended : List (SocketAddr × AttemptEnding)}

theorem Carries.task_eq (carries : Carries dest task c looked ended) : c.task = task := by
  cases carries <;> rfl

theorem Carries.undecided (carries : Carries dest task c looked ended) :
    Undecided dest looked ended := by
  cases carries with
  | lookup host port named unnumbered =>
    subst named
    exact .inl ⟨Destination.targets?_of_name unnumbered, rfl⟩
  | attempts looked failed a after text known => exact .inr ⟨_, a, known, .next failed a after⟩

/-- Attempts without a result have not come to one. -/
theorem Undecided.not_concludes (undecided : Undecided dest looked ended)
    {targets : List SocketAddr} (known : dest.targets? looked = some targets)
    (result : Except String Link) : ¬Concludes targets ended result := by
  intro concludes
  rcases undecided with ⟨unknown, -⟩ | ⟨_, a, known', continues⟩
  · exact nomatch unknown.symm.trans known
  · obtain rfl := Option.some.inj (known'.symm.trans known)
    exact continues.not_concludes result concludes

theorem carries_toAddress {a : SocketAddr} (known : dest.targets? [] = some [a]) :
    Carries dest task (.toAddress task a) [] [] :=
  .attempts [] [] a [] unresolvedHost known

theorem Destination.carries_start (dest : Destination) (task : Task) :
    Carries dest task (dest.start task) [] [] := by
  cases dest with
  | address a => exact carries_toAddress rfl
  | name host port =>
    rw [start]
    unfold Connect.toHost
    split
    · rename_i ip literal
      exact carries_toAddress (targets?_of_literal literal)
    · rename_i unnumbered
      exact .lookup host port rfl unnumbered

namespace Connect

/-- What a turn learns from a lookup. -/
def learns (c : Connect) (answer : ConnectAnswer) : List LookupAnswer :=
  match c.stage, answer with
  | .lookup .., .found addresses => [addresses]
  | _, _ => []

/-- The attempt that a turn polls. -/
def tries (c : Connect) (answer : ConnectAnswer) : List (SocketAddr × AttemptPoll) :=
  match c.stage, answer with
  | .attempts (a :: _) _, .attempted poll => [(a, poll)]
  | _, _ => []

end Connect

/-- What comes of one turn of a connect that was not cancelled before. -/
inductive TurnsTo (dest : Destination) (task : Task) (answer : ConnectAnswer)
    (looked : List LookupAnswer) (ended : List (SocketAddr × AttemptEnding)) :
    ConnectTurn → Prop
  | goesOn (next : Connect) (carries : Carries dest task next looked ended) :
    TurnsTo dest task answer looked ended { next := some next }
  | stops (cancels : answer.cancels = true) (undecided : Undecided dest looked ended) :
    TurnsTo dest task answer looked ended {}
  | ends (result : Except String Link) (targets : List SocketAddr)
      (known : dest.targets? looked = some targets)
      (concludes : Concludes targets ended result) :
    TurnsTo dest task answer looked ended { result := some result }

/-- A poll of an attempt leaves it pending, is cancelled, or ends the attempt. -/
theorem turnsTo_attempted (failed : List (SocketAddr × String)) (a : SocketAddr)
    (after : List SocketAddr) (text : String)
    (known : dest.targets? looked = some (failed.map Prod.fst ++ a :: after)) (poll : AttemptPoll) :
    TurnsTo dest task (.attempted poll) looked
      (failed.map failedAttempt ++ endings [(a, poll)])
      (Connect.turn ⟨task, .attempts (a :: after) text, failed.map Prod.fst⟩ false
        (.attempted poll)) := by
  rw [endings_singleton]
  cases ended : poll.ending? with
  | none =>
    rw [Option.map_none, Option.toList_none, List.append_nil]
    rcases race_of_unended ended with pending | ⟨stopped, cancels⟩
    · simp only [Connect.turn, pending]
      exact .goesOn _ (.attempts looked failed a after text known)
    · simp only [Connect.turn, stopped]
      exact .stops cancels (.inr ⟨_, a, known, .next failed a after⟩)
  | some ending =>
    rw [Option.map_some, Option.toList_some]
    cases ending with
    | ok result =>
      simp only [Connect.turn, race_of_ending? ended, Outcome.ofResult]
      exact .ends result _ known (.connects failed a after result)
    | error text =>
      simp only [Connect.turn, race_of_ending? ended, Outcome.ofResult]
      cases after with
      | nil => exact .ends _ _ known (.exhausts failed a text)
      | cons b after =>
        have tried : (failed ++ [(a, text)]).map Prod.fst = failed.map Prod.fst ++ [a] :=
          List.map_append
        have failed' : (failed ++ [(a, text)]).map failedAttempt =
            failed.map failedAttempt ++ [(a, .error text)] := List.map_append
        rw [← tried, ← failed']
        refine .goesOn _ (.attempts looked _ b after text ?_)
        rw [known, tried, List.append_assoc]
        rfl

/-- What one turn makes of a connect that was not cancelled. -/
theorem Carries.turn (carries : Carries dest task c looked ended) (answer : ConnectAnswer) :
    TurnsTo dest task answer (looked ++ c.learns answer) (ended ++ endings (c.tries answer))
      (c.turn false answer) := by
  cases carries with
  | lookup host port named unnumbered =>
    subst named
    cases answer with
    | attempted poll => exact .goesOn _ (.lookup host port rfl unnumbered)
    | found addresses =>
      have known : (Destination.name host port).targets? [addresses] =
          some (foundTargets port addresses) := Destination.targets?_of_name unnumbered
      rcases addresses with failure | _ | ⟨a, found⟩
      · exact .ends _ [] known .nowhere
      · exact .ends _ [] known .nowhere
      · exact .goesOn _ (.attempts [.ok (a :: found)] [] _ _ unresolvedHost known)
  | attempts looked failed a after text known =>
    cases answer with
    | found addresses =>
      simp only [Connect.learns, Connect.tries, List.append_nil, endings_nil]
      exact .goesOn _ (.attempts looked failed a after text known)
    | attempted poll =>
      simp only [Connect.learns, Connect.tries, List.append_nil]
      exact turnsTo_attempted failed a after text known poll

/-- A name is looked up once at most and before anything is tried. Targets are tried in turn. -/
structure Orderly (dest : Destination) (looked : List LookupAnswer)
    (polls : List (SocketAddr × AttemptPoll)) : Prop where
  once : looked.length ≤ 1
  early : dest.targets? looked = none → polls = []
  inTurn : ∀ targets, dest.targets? looked = some targets → InTurn targets polls

theorem Orderly.nil (dest : Destination) : Orderly dest [] [] :=
  ⟨Nat.zero_le 1, fun _ => rfl, fun targets _ => .nil targets⟩

theorem Orderly.turn {polls : List (SocketAddr × AttemptPoll)} (orderly : Orderly dest looked polls)
    (carries : Carries dest task c looked (endings polls)) (answer : ConnectAnswer) :
    Orderly dest (looked ++ c.learns answer) (polls ++ c.tries answer) := by
  generalize same : endings polls = ended at carries
  cases carries with
  | lookup host port named unnumbered =>
    subst named
    obtain rfl := orderly.early (Destination.targets?_of_name unnumbered)
    cases answer with
    | attempted poll => exact orderly
    | found addresses => exact ⟨Nat.le_refl 1, fun _ => rfl, fun targets _ => .nil targets⟩
  | attempts looked failed a after text known =>
    cases answer with
    | found addresses =>
      simp only [Connect.learns, Connect.tries, List.append_nil]
      exact orderly
    | attempted poll =>
      simp only [Connect.learns, Connect.tries, List.append_nil]
      refine ⟨orderly.once, fun unknown => ?_, fun targets known' => ?_⟩
      · cases unknown.symm.trans known
      refine (orderly.inTurn targets known').concat poll ?_
      obtain rfl := Option.some.inj (known.symm.trans known')
      rw [same]
      exact (Continues.next failed a after).getElem?

end SocketBridge
