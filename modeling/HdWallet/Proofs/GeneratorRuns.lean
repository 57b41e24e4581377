/-
What a generator asks of its source and of its word list, over whole runs. A call asks nothing if
its argument is refused; else it asks the source once, for as many bytes as the phrase needs, in
a buffer of zeros, and goes on to the word list only if the source did not fail, with the bytes
that it left (`Call.run_of_refused`, `Call.run_of_length`). So a run of calls is a run of turns
(`answers_eq_map`), each of which tells what passed between the generator and the two. A record
kept at both shows that nothing else passed (`answers_recorded`).
-/
import HdWallet.Proofs.WalletRecovery

namespace HdWallet

/-! ## A record of what is asked -/

/-- What a generator handed to its source or to its word list, and what came of it. -/
inductive Event where
  | asked (length : Nat) (buffer : Bytes length) (filled : Except PhraseError (Bytes length))
  | encoded (language : Language) (entropy : List UInt8) (answer : Except PhraseError String)
  | checked (language : Language) (phrase : String) (taken : Bool)

namespace Event

/-- How many bytes the source was asked for. -/
def requestLength? : Event → Option Nat
  | asked length _ _ => some length
  | _ => none

/-- The bytes that the source left in its buffer. -/
def leftBytes? : Event → Option (List UInt8)
  | asked _ _ (.ok entropy) => some entropy.toList
  | _ => none

/-- The bytes that the word list was handed. -/
def encodedBytes? : Event → Option (List UInt8)
  | encoded _ entropy _ => some entropy
  | _ => none

end Event

section

variable {m : Type → Type} [Monad m]

/-- The same source, with what passes recorded, the last event at the end. -/
def EntropySource.recorded (source : EntropySource m) : EntropySource (StateT (List Event) m) where
  fill buffer := do
    let filled ← source.fill buffer
    modify (· ++ [.asked _ buffer filled])
    return filled

/-- The same word list, with what passes recorded. -/
def WordList.recorded (wordList : WordList m) : WordList (StateT (List Event) m) where
  check language phrase := do
    let taken ← wordList.check language phrase
    modify (· ++ [.checked language phrase taken])
    return taken
  encode language entropy := do
    let answer ← wordList.encode language entropy
    modify (· ++ [.encoded language entropy answer])
    return answer

/-- The same generator, with one record kept at its source and at its word list. -/
def Generator.recorded (generator : Generator m) : Generator (StateT (List Event) m) where
  language := generator.language
  wordList := generator.wordList.recorded
  source := generator.source.recorded

variable [LawfulMonad m]

theorem EntropySource.fill_recorded (source : EntropySource m) (buffer : Bytes n)
    (log : List Event) :
    (source.recorded.fill buffer).run log =
      (fun filled => (filled, log ++ [.asked n buffer filled])) <$> source.fill buffer := by
  simp [recorded]

theorem WordList.encode_recorded (wordList : WordList m) (language : Language)
    (entropy : List UInt8) (log : List Event) :
    (wordList.recorded.encode language entropy).run log =
      (fun answer => (answer, log ++ [.encoded language entropy answer])) <$>
        wordList.encode language entropy := by
  simp [recorded]

end

namespace Generator

/-! ## Calls -/

/-- A phrase that a generator is called for, of so many bits or of so many words. -/
inductive Call where
  | generate (bits : Nat)
  | generateWords (words : Nat)

namespace Call

/-- How many bytes of entropy the phrase needs. There is no phrase of other arguments. -/
def requestLength? : Call → Option Nat
  | generate bits => if bits ∈ [128, 160, 192, 224, 256] then some (bits / 8) else none
  | generateWords words => if words ∈ [12, 15, 18, 21, 24] then some (4 * words / 3) else none

/-- How a call with another argument is answered. -/
def refusal : Call → PhraseError
  | generate bits => .invalidStrength bits
  | generateWords words => .invalidWordCount words

/-- How many bits of entropy the phrase carries. -/
def strength : Call → Nat
  | generate bits => bits
  | generateWords words => 32 * words / 3

theorem requestLength?_eq_some {call : Call} {length : Nat}
    (h : call.requestLength? = some length) :
    length ∈ Phrase.entropyLengths ∧ call.strength = 8 * length := by
  cases call with
  | generate bits =>
    obtain ⟨hbits, hlength⟩ := Option.ite_none_right_eq_some.1 h
    cases hlength
    revert bits
    decide
  | generateWords words =>
    obtain ⟨hwords, hlength⟩ := Option.ite_none_right_eq_some.1 h
    cases hlength
    revert words
    decide

theorem le_of_requestLength? {call : Call} {length : Nat}
    (h : call.requestLength? = some length) : length ≤ 32 := by
  have hle : ∀ length ∈ Phrase.entropyLengths, length ≤ 32 := by decide
  exact hle _ (requestLength?_eq_some h).1

section

variable {m : Type → Type} [Monad m]

/-- The call made to a generator. -/
def run (generator : Generator m) : Call → m (Except PhraseError String)
  | generate bits => generator.generate bits
  | generateWords words => generator.generateWords words

theorem run_generateWords (generator : Generator m) {words : Nat}
    (h : words ∈ [12, 15, 18, 21, 24]) :
    (generateWords words).run generator = (generate (32 * words / 3)).run generator := by
  have hbits : words / 3 * 32 = 32 * words / 3 := by
    revert words
    decide
  have hstrength : strengthOf words = .ok (words / 3 * 32) := if_pos h
  simp only [run, Generator.generateWords, hstrength, hbits]

/-- A refused call ends before anything is asked. -/
theorem run_of_refused (generator : Generator m) {call : Call} (h : call.requestLength? = none) :
    call.run generator = pure (.error call.refusal) := by
  cases call with
  | generate bits =>
    have hbits : bits ∉ strengths := by simpa [requestLength?, strengths] using h
    rw [run, Generator.generate, dif_neg hbits, refusal]
  | generateWords words =>
    have hwords : strengthOf words = .error (.invalidWordCount words) :=
      if_neg (by simpa [requestLength?, Phrase.wordCounts] using h)
    rw [run, Generator.generateWords, hwords, refusal]

/-- How a call goes on when the source was asked. -/
def proceed (generator : Generator m) {length : Nat} :
    Except PhraseError (Bytes length) → m (Except PhraseError String)
  | .ok entropy => generator.wordList.encode generator.language entropy.toList
  | .error error => pure (.error error)

/-- Every other call asks the source once, and then the word list unless the source failed. -/
theorem run_of_length (generator : Generator m) {call : Call} {length : Nat}
    (h : call.requestLength? = some length) :
    call.run generator = generator.source.fill (.zeros length) >>= proceed generator := by
  -- The two kinds of calls differ in how the strength is found, and agree from there on.
  have hgenerate {bits : Nat} (hbits : bits ∈ strengths) :
      (generate bits).run generator =
        generator.source.fill (.zeros (bits / 8)) >>= proceed generator := by
    rw [run, Generator.generate, dif_pos hbits]
    dsimp only
    rw [Bytes.take_zeros]
    refine bind_congr fun filled => ?_
    cases filled <;> rfl
  cases call with
  | generate bits =>
    obtain ⟨hbits, hlength⟩ := Option.ite_none_right_eq_some.1 h
    cases hlength
    exact hgenerate hbits
  | generateWords words =>
    obtain ⟨hwords, hlength⟩ := Option.ite_none_right_eq_some.1 h
    cases hlength
    have hbits : 32 * words / 3 ∈ strengths ∧ 32 * words / 3 / 8 = 4 * words / 3 := by
      revert words
      decide
    rw [run_generateWords generator hwords, hgenerate hbits.1, hbits.2]

end

end Call

/-! ## Turns -/

/-- What passes in a call: nothing if it is refused; else one request to the source, for as many
bytes as the phrase needs, and unless it fails one to the word list. -/
inductive Turn (call : Call) where
  | refused (h : call.requestLength? = none)
  | failed (length : Nat) (h : call.requestLength? = some length) (error : PhraseError)
  | encoded (length : Nat) (h : call.requestLength? = some length) (entropy : Bytes length)
      (answer : Except PhraseError String)

namespace Turn

/-- The events of the call. The buffer handed to the source is all zeros, and the word list is
handed the bytes that the source left in it. -/
def events {call : Call} (language : Language) : Turn call → List Event
  | refused _ => []
  | failed length _ error => [.asked length (.zeros length) (.error error)]
  | encoded length _ entropy answer =>
    [.asked length (.zeros length) (.ok entropy), .encoded language entropy.toList answer]

/-- The answer to the call: the source's error and the word list's answer are passed on. -/
def answer {call : Call} : Turn call → Except PhraseError String
  | refused _ => .error call.refusal
  | failed _ _ error => .error error
  | encoded _ _ _ answer => answer

end Turn

/-- The turns of a run of calls. -/
inductive Turns : List Call → Type where
  | nil : Turns []
  | cons {call : Call} {calls : List Call} (turn : Turn call) (turns : Turns calls) :
      Turns (call :: calls)

namespace Turns

/-- The events of the run, in the order of the calls. -/
def events {calls : List Call} (language : Language) : Turns calls → List Event
  | nil => []
  | cons turn turns => turn.events language ++ turns.events language

/-- The answers, one for each call. -/
def answers {calls : List Call} : Turns calls → List (Except PhraseError String)
  | nil => []
  | cons turn turns => turn.answer :: turns.answers

section

variable {calls : List Call} {language : Language}

/-- The requests are those of the accepted calls. -/
theorem requestLengths_events (turns : Turns calls) :
    (turns.events language).filterMap Event.requestLength? =
      calls.filterMap Call.requestLength? := by
  induction turns with
  | nil => rfl
  | cons turn turns ih =>
    rw [events, List.filterMap_append, ih]
    cases turn with
    | refused h => rw [List.filterMap_cons_none h]; rfl
    | failed length h error => rw [List.filterMap_cons_some h]; rfl
    | encoded length h entropy answer => rw [List.filterMap_cons_some h]; rfl

/-- The word list is handed what the source left, and nothing else. -/
theorem encodedBytes_events (turns : Turns calls) :
    (turns.events language).filterMap Event.encodedBytes? =
      (turns.events language).filterMap Event.leftBytes? := by
  induction turns with
  | nil => rfl
  | cons turn turns ih =>
    rw [events, List.filterMap_append, List.filterMap_append, ih]
    cases turn <;> rfl

/-- An event as it may stand in the record of a run: a buffer of zeros that is not too long, or
bytes for the word list in the language of the generator. -/
def IsProper (language : Language) : Event → Prop
  | .asked length buffer _ => buffer = .zeros length ∧ length ≤ 32
  | .encoded other _ _ => other = language
  | .checked _ _ _ => False

theorem isProper_of_mem_events {turns : Turns calls} {event : Event}
    (h : event ∈ turns.events language) : IsProper language event := by
  induction turns with
  | nil => cases h
  | cons turn turns ih =>
    rcases List.mem_append.1 h with h | h
    · cases turn with
      | refused => cases h
      | failed length hlength error =>
        cases List.mem_singleton.1 h
        exact ⟨rfl, Call.le_of_requestLength? hlength⟩
      | encoded length hlength entropy answer =>
        rcases List.mem_pair.1 h with rfl | rfl
        · exact ⟨rfl, Call.le_of_requestLength? hlength⟩
        · exact rfl
    · exact ih h

end

end Turns

section

variable {m : Type → Type} [Monad m] (generator : Generator m)

/-- The turn of a call: the source is asked, then the word list, and nothing else is done. -/
def Call.turn (call : Call) : m (Turn call) :=
  match h : call.requestLength? with
  | none => pure (.refused h)
  | some length => do
    match ← generator.source.fill (.zeros length) with
    | .error error => return .failed length h error
    | .ok entropy =>
      let answer ← generator.wordList.encode generator.language entropy.toList
      return .encoded length h entropy answer

/-- The turns of calls, one after the other. -/
def turns : (calls : List Call) → m (Turns calls)
  | [] => pure .nil
  | call :: calls => do
    let turn ← call.turn generator
    let rest ← turns calls
    return .cons turn rest

/-- The answers of a generator to calls, one after the other. -/
def answers (calls : List Call) : m (List (Except PhraseError String)) :=
  calls.mapM (Call.run generator)

variable [LawfulMonad m]

theorem Call.run_eq_map (call : Call) :
    call.run generator = Turn.answer <$> call.turn generator := by
  unfold Call.turn
  split
  · next h => rw [run_of_refused generator h, map_pure, Turn.answer]
  · next length h =>
    rw [run_of_length generator h, map_bind]
    refine bind_congr fun filled => ?_
    cases filled with
    | error error => simp [proceed, Turn.answer]
    | ok entropy => simp [proceed, Turn.answer]

/-- **One call adds the events of its turn to the record**, and nothing else. -/
theorem Call.run_recorded (call : Call) (log : List Event) :
    (call.run generator.recorded).run log =
      (fun turn : Turn call => (turn.answer, log ++ turn.events generator.language)) <$>
        call.turn generator := by
  unfold Call.turn
  split
  · next h =>
    rw [run_of_refused generator.recorded h, map_pure, StateT.run_pure, Turn.events,
      List.append_nil, Turn.answer]
  · next length h =>
    rw [run_of_length generator.recorded h, StateT.run_bind, recorded,
      EntropySource.fill_recorded, bind_map_left, map_bind]
    refine bind_congr fun filled => ?_
    cases filled with
    | error error => simp [proceed, Turn.answer, Turn.events]
    | ok entropy =>
      rw [proceed, WordList.encode_recorded]
      simp [Turn.answer, Turn.events]

theorem answers_eq_map (calls : List Call) :
    answers generator calls = Turns.answers <$> turns generator calls := by
  induction calls with
  | nil => rw [answers, turns, List.mapM_nil, map_pure, Turns.answers]
  | cons call calls ih =>
    have hrest : calls.mapM (Call.run generator) = _ := ih
    rw [answers, turns, List.mapM_cons, Call.run_eq_map, hrest]
    simp only [map_eq_pure_bind, bind_assoc, pure_bind, Turns.answers]

/-- **A run adds its events to the record**, in the order of the calls. -/
theorem answers_recorded (calls : List Call) (log : List Event) :
    (answers generator.recorded calls).run log =
      (fun turns : Turns calls => (turns.answers, log ++ turns.events generator.language)) <$>
        turns generator calls := by
  -- Each call hands its record on to the next, so the run may start from any record.
  induction calls generalizing log with
  | nil =>
    rw [answers, turns, List.mapM_nil, map_pure, StateT.run_pure, Turns.answers, Turns.events,
      List.append_nil]
  | cons call calls ih =>
    have hrest (log : List Event) :
        (calls.mapM (Call.run generator.recorded)).run log = _ := ih log
    rw [answers, turns, List.mapM_cons]
    simp only [StateT.run_bind, StateT.run_pure, Call.run_recorded, hrest, map_eq_pure_bind,
      bind_assoc, pure_bind, Turns.answers, Turns.events, List.append_assoc]

end

/-! ## What the answers are -/

/-- A phrase called for in words is refused for its words: that the strength is wrong can only be
the word of the source or of the word list. -/
theorem Turn.mem_events_of_answer_invalidStrength {language : Language} {words bits : Nat}
    {turn : Turn (.generateWords words)} (h : turn.answer = .error (.invalidStrength bits)) :
    (∃ length buffer, .asked length buffer (.error (.invalidStrength bits)) ∈
      turn.events language) ∨
    ∃ entropy, .encoded language entropy (.error (.invalidStrength bits)) ∈
      turn.events language := by
  cases turn with
  | refused => cases h
  | failed length hlength error =>
    cases h
    exact .inl ⟨_, _, List.mem_singleton.2 rfl⟩
  | encoded length hlength entropy answer =>
    cases h
    exact .inr ⟨_, List.mem_pair.2 (.inr rfl)⟩

/-- The standard word lists have a phrase for every buffer that is asked for: that of the wallet
of these bytes. -/
theorem exists_encode_bip39 {call : Call} {length : Nat} (h : call.requestLength? = some length)
    (entropy : Bytes length) (language : Language) :
    ∃ phrase, Phrase.encode language entropy.toList = .ok phrase ∧
      (∀ passphrase, ∃ wallet, Wallet.ofEntropy language entropy.toList passphrase = .ok wallet ∧
        wallet.mnemonic = phrase) ∧
      Phrase.wordCount phrase = 3 * call.strength / 32 ∧
      Phrase.check language phrase = true := by
  obtain ⟨hlength, hstrength⟩ := Call.requestLength?_eq_some h
  have hmem : entropy.toList.length ∈ Phrase.entropyLengths := entropy.length_toList.symm ▸ hlength
  have hof : Wallet.IsOfEntropy language entropy.toList none _ :=
    Wallet.isOfEntropy_ofWords none hmem
  refine ⟨_, hof.encode_eq, fun passphrase => ?_, ?_, ?_⟩
  · exact ⟨_, Wallet.ofEntropy_of_mem passphrase hmem, rfl⟩
  · have hwords : 3 * entropy.toList.length / 4 = 3 * call.strength / 32 := by
      rw [entropy.length_toList, hstrength]
      omega
    exact hof.wordCount_eq.trans hwords
  · exact (Phrase.isWritten_of_encode hof.encode_eq).check_eq

/-- With the standard word lists, the answers are the phrases of what the source leaves. -/
theorem Call.run_standard {m : Type → Type} [Monad m] [LawfulMonad m] (source : EntropySource m)
    (language : Language) {call : Call} {length : Nat} (h : call.requestLength? = some length) :
    call.run (standard language source) =
      (fun filled => filled.bind fun entropy => Phrase.encode language entropy.toList) <$>
        source.fill (.zeros length) := by
  rw [run_of_length (standard language source) h, map_eq_pure_bind]
  refine bind_congr fun filled => ?_
  cases filled <;> rfl

/-- **A generator asks its source once for each phrase, and encodes what the source left.** A call
whose argument no phrase has is refused, and nothing is asked. Every other call is one request,
for a buffer of zeros of the length needed; if the source fails the call ends with its error and
the word list is not asked, and else the word list is, once, with the bytes that the source left,
and its answer is that of the call. With a record kept at both, a run of calls leaves the events
of its turns in the record and no others: the requests are those of the accepted calls, in their
order, and the word list is handed what the source left each time, and nothing else. With the
standard word lists the phrases are those of the wallets of the same bytes. -/
theorem one_request_for_each_phrase {m : Type → Type} [Monad m] [LawfulMonad m]
    (generator : Generator m) (calls : List Call) :
    (∀ call : Call,
      match call.requestLength? with
      | none => call.run generator = pure (.error call.refusal)
      | some length => call.run generator = (do
          match ← generator.source.fill (.zeros length) with
          | .ok entropy => generator.wordList.encode generator.language entropy.toList
          | .error error => return .error error)) ∧
    (∀ words ∈ [12, 15, 18, 21, 24], (Call.generateWords words).run generator =
      (Call.generate (32 * words / 3)).run generator) ∧
    answers generator calls = Turns.answers <$> turns generator calls ∧
    (∀ log, (answers generator.recorded calls).run log =
      (fun turns : Turns calls => (turns.answers, log ++ turns.events generator.language)) <$>
        turns generator calls) ∧
    (∀ (turns : Turns calls) (language : Language),
      (turns.events language).filterMap Event.requestLength? =
        calls.filterMap Call.requestLength? ∧
      (turns.events language).filterMap Event.encodedBytes? =
        (turns.events language).filterMap Event.leftBytes? ∧
      ∀ event ∈ turns.events language, Turns.IsProper language event) ∧
    (∀ (language : Language) (words bits : Nat) (turn : Turn (.generateWords words)),
      turn.answer = .error (.invalidStrength bits) →
        (∃ length buffer, .asked length buffer (.error (.invalidStrength bits)) ∈
          turn.events language) ∨
        ∃ entropy, .encoded language entropy (.error (.invalidStrength bits)) ∈
          turn.events language) ∧
    ∀ (source : EntropySource m) (language : Language) (call : Call) (length : Nat),
      call.requestLength? = some length →
        ∃ phrase : Bytes length → String,
          call.run (standard language source) =
            (fun filled => filled.map phrase) <$> source.fill (.zeros length) ∧
          ∀ entropy,
            (∀ passphrase, ∃ wallet,
              Wallet.ofEntropy language entropy.toList passphrase = .ok wallet ∧
                wallet.mnemonic = phrase entropy) ∧
            Phrase.wordCount (phrase entropy) = 3 * call.strength / 32 ∧
            Phrase.check language (phrase entropy) = true := by
  refine ⟨fun call => ?_, fun words h => Call.run_generateWords generator h,
    answers_eq_map generator calls, answers_recorded generator calls, fun turns language => ?_,
    fun _ _ _ _ h => Turn.mem_events_of_answer_invalidStrength h,
    fun source language call length h => ?_⟩
  · split
    · next h => exact Call.run_of_refused generator h
    · next h =>
      rw [Call.run_of_length generator h]
      refine bind_congr fun filled => ?_
      cases filled <;> rfl
  · exact ⟨turns.requestLengths_events, turns.encodedBytes_events,
      fun _ => Turns.isProper_of_mem_events⟩
  · choose phrase hencode hphrase using fun entropy => exists_encode_bip39 h entropy language
    refine ⟨phrase, ?_, hphrase⟩
    rw [Call.run_standard source language h]
    refine congrArg (· <$> _) (funext fun filled => ?_)
    cases filled with
    | error error => rfl
    | ok entropy => exact hencode entropy

/-- A source that has the bytes of one phrase, and counts how often it is asked. -/
def sourceOfOne : EntropySource (StateM Nat) where
  fill buffer := fun asked =>
    (if asked = 0 then .ok buffer else .error (.entropy "exhausted"), asked + 1)

/-- Of four calls the second and the third are requests, and the third fails: the word list is
asked once. -/
theorem two_requests_of_four_calls :
    ((answers (recorded (standard .english sourceOfOne))
        [.generate 100, .generateWords 12, .generate 256, .generateWords 13]).run []).run 0 =
      (([.error (.invalidStrength 100),
          .ok (Phrase.join (List.replicate 11 "abandon" ++ ["about"])),
          .error (.entropy "exhausted"), .error (.invalidWordCount 13)],
        [.asked 16 (.zeros 16) (.ok (.zeros 16)),
          .encoded .english (List.replicate 16 0)
            (.ok (Phrase.join (List.replicate 11 "abandon" ++ ["about"]))),
          .asked 32 (.zeros 32) (.error (.entropy "exhausted"))]), 2) := by
  rw [(one_request_for_each_phrase (standard .english sourceOfOne) _).2.2.2.1,
    ← Phrase.encode_abandon_about]
  rfl

end Generator

end HdWallet
