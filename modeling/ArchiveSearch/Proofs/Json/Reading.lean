import ArchiveSearch.Json.Draft
import ArchiveSearch.Proofs.Json.Data

namespace ArchiveSearch.Json

set_option autoImplicit false

theorem whole_number_data (negative : Bool) (n : Nat) :
    (∃ x, wholeNumber negative n = .real x) ∨ (wholeNumber negative n).isData = true := by
  unfold wholeNumber
  cases negative with
  | true =>
      by_cases zero : n = 0
      · exact .inl ⟨_, by rw [if_pos rfl, if_pos zero]⟩
      · by_cases fits : n ≤ Bound.int64
        · right
          rw [if_pos rfl, if_neg zero, if_pos fits]
          simp only [isData, Bound.int64, Bound.word64, Bool.and_eq_true, decide_eq_true_eq] at fits ⊢
          omega
        · exact .inl ⟨_, by rw [if_pos rfl, if_neg zero, if_neg fits]⟩
  | false =>
      by_cases fits : n < Bound.word64
      · right
        rw [if_neg Bool.false_ne_true, if_pos fits]
        simp only [isData, Bound.int64, Bound.word64, Bool.and_eq_true, decide_eq_true_eq] at fits ⊢
        omega
      · exact .inl ⟨_, by rw [if_neg Bool.false_ne_true, if_neg fits]⟩

theorem number_value_data (negative : Bool) (whole : List Char) (fraction : Option (List Char)) (power : Option Int)
    (j : Json) (read : numberValue negative whole fraction power = some j) : j.isData = true := by
  unfold numberValue at read
  simp only at read
  split at read
  · rename_i x real
    split at read
    · rename_i finite
      rw [← Option.some.inj read, real]
      exact finite
    · cases read
  · rename_i unreal
    rw [← Option.some.inj read]
    split at unreal
    · rcases whole_number_data negative (digitsValue whole) with ⟨x, real⟩ | data
      · exact absurd real (unreal x)
      · exact data
    · exact absurd rfl (unreal _)

theorem unsigned_number_data (negative : Bool) (cs after : List Char) (j : Json)
    (read : unsignedNumber negative cs = some (some j, after)) : j.isData = true := by
  unfold unsignedNumber at read
  simp only at read
  split at read
  · cases read
  · split at read
    · cases read
    · split at read
      · cases read
      · exact number_value_data _ _ _ _ j (Prod.mk.inj (Option.some.inj read)).1

theorem number_data (cs after : List Char) (j : Json) (read : number cs = some (some j, after)) :
    j.isData = true := by
  unfold number at read
  split at read <;> exact unsigned_number_data _ _ _ j read

theorem word_data (cs after : List Char) (j : Json) (read : word cs = some (j, after)) : j.isData = true := by
  unfold word at read
  split at read <;> cases read <;> rfl

def Token.Sound : Token → Prop
  | .scalar value => ∀ j ∈ value, j.isData = true
  | _ => True

theorem mark_sound (c : Char) (token : Token) (read : mark c = some token) : token.Sound := by
  unfold mark at read
  repeat' split at read
  all_goals cases read
  all_goals exact trivial

theorem first_token_sound (c : Char) (rest after : List Char) (token : Token)
    (read : firstToken c rest = some (token, after)) : token.Sound := by
  unfold firstToken at read
  split at read
  · rename_i marked
    cases read
    exact mark_sound c token marked
  · split at read
    · obtain ⟨found, -, made⟩ := Option.map_eq_some_iff.1 read
      cases made
      exact trivial
    · split at read
      · rename_i value after named
        cases read
        intro j mem
        cases mem
        exact word_data _ _ _ named
      · obtain ⟨⟨value, after⟩, number, made⟩ := Option.map_eq_some_iff.1 read
        cases made
        intro j mem
        cases mem
        exact number_data _ _ _ number

theorem tokens_sound (cs : List Char) : ∀ token ∈ tokens cs, token.Sound := by
  induction cs using tokens.induct with
  | case1 =>
      rw [tokens]
      exact List.forall_mem_nil _
  | case2 c rest gap ih =>
      rw [tokens, if_pos gap]
      exact ih
  | case3 c rest gap none =>
      rw [tokens, if_neg gap]
      split
      · exact List.forall_mem_cons.2 ⟨trivial, List.forall_mem_nil _⟩
      · rename_i found
        rw [none] at found
        cases found
  | case4 c rest gap token after read shorter ih =>
      rw [tokens, if_neg gap]
      split
      · rename_i found
        rw [read] at found
        cases found
      · rename_i found
        rw [read] at found
        cases found
        exact List.forall_mem_cons.2 ⟨first_token_sound c rest after token read, ih⟩

inductive Draft.Sound : Draft → Prop
  | scalar (value : Option Json) (data : ∀ j ∈ value, j.isData = true) : Sound (.scalar value)
  | string (text : Option String) : Sound (.string text)
  | array (items : List Draft) (each : ∀ item ∈ items, item.Sound) : Sound (.array items)
  | object (members : List (Option String × Draft)) (each : ∀ member ∈ members, member.2.Sound) :
      Sound (.object members)
  | broken : Sound .broken

def Frame.Sound : Frame → Prop
  | .array items => ∀ item ∈ items, item.Sound
  | .object members => ∀ member ∈ members, member.2.Sound
  | .member members _ => ∀ member ∈ members, member.2.Sound

theorem members_sound (name : Option String) (inner : Draft) (members : List (Option String × Draft))
    (sound : inner.Sound) (each : ∀ member ∈ members, member.2.Sound) :
    ∀ member ∈ (name, inner) :: members, member.2.Sound :=
  List.forall_mem_cons.2 ⟨sound, each⟩

theorem close_all_sound (frames : List Frame) (each : ∀ frame ∈ frames, frame.Sound) (inner : Draft)
    (sound : inner.Sound) : (closeAll inner frames).Sound := by
  induction frames generalizing inner with
  | nil => exact sound
  | cons frame outer ih =>
      obtain ⟨here, others⟩ := List.forall_mem_cons.1 each
      cases frame with
      | array items =>
          exact ih others _ (.array _ fun item mem =>
            List.forall_mem_cons.2 ⟨sound, here⟩ item (List.mem_reverse.1 mem))
      | object members =>
          exact ih others _ (.object _ fun member mem =>
            members_sound none inner members sound here member (List.mem_reverse.1 mem))
      | member members name =>
          exact ih others _ (.object _ fun member mem =>
            members_sound name inner members sound here member (List.mem_reverse.1 mem))

theorem put_sound (frames : List Frame) (each : ∀ frame ∈ frames, frame.Sound) (inner : Draft)
    (sound : inner.Sound) : ∀ frame ∈ put inner frames, frame.Sound := by
  cases frames with
  | nil => exact each
  | cons frame outer =>
      obtain ⟨here, others⟩ := List.forall_mem_cons.1 each
      cases frame with
      | array items => exact List.forall_mem_cons.2 ⟨List.forall_mem_cons.2 ⟨sound, here⟩, others⟩
      | object members => exact List.forall_mem_cons.2 ⟨members_sound none inner members sound here, others⟩
      | member members name => exact List.forall_mem_cons.2 ⟨members_sound name inner members sound here, others⟩

theorem assemble_sound (tokens : List Token) (each : ∀ token ∈ tokens, token.Sound) (phase : Phase)
    (frames : List Frame) (around : ∀ frame ∈ frames, frame.Sound) :
    (assemble phase frames tokens).1.Sound := by
  induction tokens generalizing phase frames with
  | nil => exact close_all_sound frames around _ .broken
  | cons token rest ih =>
      obtain ⟨here, later⟩ := List.forall_mem_cons.1 each
      -- What a step can do: end a value, open a container, close one, or go on inside.
      have ended : ∀ inner : Draft, inner.Sound → ∀ frame outer, (∀ f ∈ frame :: outer, f.Sound) →
          (assemble .next (put inner (frame :: outer)) rest).1.Sound :=
        fun inner sound frame outer others => ih later .next _ (put_sound _ others inner sound)
      have opened : ∀ phase frame, frame.Sound → (assemble phase (frame :: frames) rest).1.Sound :=
        fun phase frame sound => ih later phase _ (List.forall_mem_cons.2 ⟨sound, around⟩)
      have array : ∀ items outer, frames = .array items :: outer →
          Draft.Sound (.array items.reverse) ∧ ∀ frame ∈ outer, frame.Sound := by
        rintro items outer rfl
        obtain ⟨inside, others⟩ := List.forall_mem_cons.1 around
        exact ⟨.array _ fun item mem => inside item (List.mem_reverse.1 mem), others⟩
      have object : ∀ members outer, frames = .object members :: outer →
          Draft.Sound (.object members.reverse) ∧ ∀ frame ∈ outer, frame.Sound := by
        rintro members outer rfl
        obtain ⟨inside, others⟩ := List.forall_mem_cons.1 around
        exact ⟨.object _ fun member mem => inside member (List.mem_reverse.1 mem), others⟩
      have named : ∀ members name outer, frames = .object members :: outer →
          (assemble .colon (.member members name :: outer) rest).1.Sound := by
        rintro members name outer rfl
        obtain ⟨inside, others⟩ := List.forall_mem_cons.1 around
        exact ih later .colon _ (List.forall_mem_cons.2 ⟨inside, others⟩)
      unfold assemble
      simp only
      split
      case h_1 | h_5 =>
        cases frames with
        | nil => exact .scalar _ here
        | cons frame outer => exact ended _ (.scalar _ here) frame outer around
      case h_2 | h_6 =>
        cases frames with
        | nil => exact .string _
        | cons frame outer => exact ended _ (.string _) frame outer around
      case h_3 | h_7 => exact opened _ (.array []) (List.forall_mem_nil _)
      case h_4 | h_8 => exact opened _ (.object []) (List.forall_mem_nil _)
      case h_9 items outer | h_11 items outer =>
        obtain ⟨sound, others⟩ := array items outer rfl
        cases outer with
        | nil => exact sound
        | cons frame outer => exact ended _ sound frame outer others
      case h_13 members outer | h_14 members outer =>
        obtain ⟨sound, others⟩ := object members outer rfl
        cases outer with
        | nil => exact sound
        | cons frame outer => exact ended _ sound frame outer others
      case h_15 | h_16 => exact named _ _ _ rfl
      case h_10 | h_12 | h_17 => exact ih later _ _ around
      case h_18 => exact close_all_sound frames around _ .broken

theorem values_of (depth : Nat) (items : List Draft) (values : List Json) (read : values? depth items = some values) :
    ∀ value ∈ values, ∃ item ∈ items, item.value? depth = some value := by
  induction items generalizing values with
  | nil =>
      cases read
      exact List.forall_mem_nil _
  | cons item rest ih =>
      rw [values?] at read
      split at read
      · rename_i value more first others
        cases read
        refine List.forall_mem_cons.2 ⟨⟨item, List.mem_cons_self, first⟩, fun other mem => ?_⟩
        obtain ⟨source, inside, same⟩ := ih more others other mem
        exact ⟨source, List.mem_cons_of_mem _ inside, same⟩
      · cases read

theorem member_values_of (depth : Nat) (members : List (Option String × Draft)) (values : List (String × Json))
    (read : memberValues? depth members = some values) :
    ∀ value ∈ values, ∃ member ∈ members, member.2.value? depth = some value.2 := by
  induction members generalizing values with
  | nil =>
      cases read
      exact List.forall_mem_nil _
  | cons member rest ih =>
      obtain ⟨name, draft⟩ := member
      unfold memberValues? at read
      split at read
      · rename_i name value more first others
        cases read
        refine List.forall_mem_cons.2 ⟨⟨_, List.mem_cons_self, first⟩, fun other mem => ?_⟩
        obtain ⟨source, inside, same⟩ := ih more others other mem
        exact ⟨source, List.mem_cons_of_mem _ inside, same⟩
      · cases read

theorem value_data (draft : Draft) (sound : draft.Sound) (depth : Nat) (j : Json)
    (read : draft.value? depth = some j) : j.isData = true := by
  induction sound generalizing depth j with
  | scalar value data => exact data j read
  | string text =>
      obtain ⟨s, -, rfl⟩ := Option.map_eq_some_iff.1 read
      rfl
  | array items each ih =>
      rw [Draft.value?] at read
      split at read
      · cases read
      · obtain ⟨values, inner, rfl⟩ := Option.map_eq_some_iff.1 read
        refine (are_data_iff values).2 fun value mem => ?_
        obtain ⟨item, inside, same⟩ := values_of _ items values inner value mem
        exact ih item inside _ value same
  | object members each ih =>
      rw [Draft.value?] at read
      split at read
      · cases read
      · obtain ⟨values, inner, rfl⟩ := Option.map_eq_some_iff.1 read
        refine (members_data_iff _).2 fun value mem => ?_
        obtain ⟨member, inside, same⟩ := member_values_of _ members values inner value (sorted_subset values mem)
        exact ih member inside _ value.2 same
  | broken => cases read

theorem read_data (text : String) (j : Json) (read : read? text = some j) : j.isData = true := by
  unfold read? at read
  split at read
  · rename_i draft made
    have sound : draft.Sound := by
      have assembled := assemble_sound _ (tokens_sound text.toList) .value [] (List.forall_mem_nil _)
      rw [← (Prod.mk.inj made).1]
      exact assembled
    exact value_data draft sound _ j read
  · cases read

end ArchiveSearch.Json
