import Nomen.Proofs.Register

namespace Nomen

inductive Request where
  | reserve (name : String)
  | issue (stem : String)
  | adopt (name : String)

inductive Event where
  | reserved (name : String)
  | given (name : String)
  deriving DecidableEq

def Event.Takes (event : Event) (name : String) : Prop :=
  event = .given name ∨ event = .reserved name ∧ name ≠ ""

namespace Register

def handle (register : Register) : Request → Event × Register
  | .reserve name => (.reserved name, register.reserve name)
  | .issue stem => (.given (register.issue stem).1, (register.issue stem).2)
  | .adopt name => (.given (register.adopt name).1, (register.adopt name).2)

def history (register : Register) : List Request → List Event
  | [] => []
  | request :: requests =>
    (register.handle request).1 :: (register.handle request).2.history requests

def after (register : Register) : List Request → Register
  | [] => register
  | request :: requests => (register.handle request).2.after requests

theorem history_reserve (register : Register) (names : List String) (requests : List Request) :
    register.history (names.map .reserve ++ requests) =
      names.map .reserved ++ (register.reserveAll names).history requests := by
  induction names generalizing register with
  | nil => rfl
  | cons name names ih =>
    rw [List.map_cons, List.cons_append, history, List.map_cons, List.cons_append]
    exact congrArg _ (ih (register.reserve name))

theorem Sound.handle_cases {register : Register} (hs : register.Sound) (request : Request) :
    (∃ name, register.handle request = (.reserved name, register.reserve name)) ∨
    ∃ entry : Entry, entry.Sound ∧ entry.name ∉ register.names ∧
      register.handle request = (.given entry.name, register.enter entry) := by
  have hfrom (stem : String) (start : Nat) : ∃ entry : Entry, entry.Sound ∧
      entry.name ∉ register.names ∧
      register.enterFrom stem start = (entry.name, register.enter entry) := by
    obtain ⟨k, -, he, -, hfree⟩ := register.enterFrom_spec stem start
    exact ⟨⟨spell stem (start + k), stem, start + k⟩, Or.inr rfl, hfree, he⟩
  cases request with
  | reserve name => exact Or.inl ⟨name, rfl⟩
  | issue stem =>
    obtain ⟨entry, hsound, hfree, he⟩ := hfrom stem ((register.count? stem).getD 0 + 1)
    exact Or.inr ⟨entry, hsound, hfree, by rw [handle, issue, he]⟩
  | adopt name =>
    right
    rcases register.adopt_cases name with ⟨letter, -, hl, he⟩ | ⟨-, he⟩
    · exact ⟨⟨letter, letter, 1⟩, Or.inr rfl, hs.freeLetter_notMem hl, by rw [handle, he]⟩
    · obtain ⟨entry, hsound, hfree, he'⟩ := hfrom (Numbered.ofName name).stem
        (register.adoptStart (Numbered.ofName name))
      exact ⟨entry, hsound, hfree, by rw [handle, he, he']⟩

theorem Sound.handle {register : Register} (hs : register.Sound) (request : Request) :
    (register.handle request).2.Sound := by
  rcases hs.handle_cases request with ⟨name, he⟩ | ⟨entry, hsound, -, he⟩
  · rw [he]
    exact hs.reserve name
  · rw [he]
    exact hs.enter hsound

theorem Sound.given_notMem {register : Register} (hs : register.Sound) {request : Request}
    {name : String} (h : (register.handle request).1 = .given name) : name ∉ register.names := by
  rcases hs.handle_cases request with ⟨other, he⟩ | ⟨entry, -, hfree, he⟩
  · rw [he] at h
    exact absurd h (by simp)
  · rw [he] at h
    obtain rfl : entry.name = name := by simpa using h
    exact hfree

theorem Sound.mem_names_handle {register : Register} (hs : register.Sound) {request : Request}
    {name : String} :
    name ∈ (register.handle request).2.names ↔
      (register.handle request).1.Takes name ∨ name ∈ register.names := by
  rcases hs.handle_cases request with ⟨other, he⟩ | ⟨entry, -, -, he⟩
  · rw [he, mem_names_reserve, Event.Takes]
    grind
  · rw [he, names_enter, List.mem_cons, Event.Takes]
    grind

theorem Sound.mem_names_after {register : Register} (hs : register.Sound) {requests : List Request}
    {name : String} :
    name ∈ (register.after requests).names ↔
      (∃ event ∈ register.history requests, event.Takes name) ∨ name ∈ register.names := by
  induction requests generalizing register with
  | nil => simp [after, history]
  | cons request requests ih =>
    rw [after, ih (hs.handle request), hs.mem_names_handle, history]
    simp only [List.mem_cons, or_and_right, exists_or, exists_eq_left]
    rw [or_left_comm, or_assoc]

theorem Sound.history_notMem {register : Register} (hs : register.Sound) (requests : List Request)
    {name : String} (h : .given name ∈ register.history requests) : name ∉ register.names := by
  induction requests generalizing register with
  | nil => exact absurd h List.not_mem_nil
  | cons request requests ih =>
    rcases List.mem_cons.mp h with h | h
    · exact hs.given_notMem h.symm
    · intro hm
      exact ih (hs.handle request) h (hs.mem_names_handle.mpr (Or.inr hm))

theorem Sound.history_pairwise {register : Register} (hs : register.Sound)
    (requests : List Request) :
    (register.history requests).Pairwise fun earlier later =>
      ∀ name, later = .given name → ¬ earlier.Takes name := by
  induction requests generalizing register with
  | nil => exact List.Pairwise.nil
  | cons request requests ih =>
    refine List.pairwise_cons.mpr ⟨?_, ih (hs.handle request)⟩
    rintro later hl name rfl ht
    exact (hs.handle request).history_notMem requests hl (hs.mem_names_handle.mpr (Or.inl ht))

theorem given_fresh (requests : List Request) :
    (({} : Register).history requests).Pairwise fun earlier later =>
      ∀ name, later = .given name →
        earlier ≠ .given name ∧ (name ≠ "" → earlier ≠ .reserved name) := by
  refine (sound_empty.history_pairwise requests).imp ?_
  intro earlier later h name hl
  have ht := h name hl
  rw [Event.Takes, not_or] at ht
  exact ⟨ht.1, fun hn he => ht.2 ⟨he, hn⟩⟩

-- Two stems may have spellings in common.
example : ({} : Register).history [.reserve "x22", .issue "x2", .issue "x2", .adopt "x22"] =
    [.reserved "x22", .given "x2", .given "x23", .given "x24"] := by decide

end Register

end Nomen
