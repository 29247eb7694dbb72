import Libdiscord.Bot.Callback

/-! What the hash bot answers, and the memory it uses for it. -/

set_option autoImplicit false

namespace Libdiscord.Bot

open Libdiscord.Base

section Hex
variable {block : Block UInt8} {text : List UInt8}

theorem strlen_of_holds (holds : block.Holds (text ++ [0])) (nonzero : 0 ∉ text) :
    block.strlen = if text.length < block.requested then some text.length else none := by
  by_cases inside : text.length < block.requested
  · rw [if_pos inside]
    exact Block.Terminated.strlen ⟨holds, nonzero, inside⟩
  · rw [if_neg inside, Block.strlen]
    have absent : ((List.range block.requested).find? fun i => (block.cells i).getD 0 = 0) = none := by
      rw [List.find?_eq_none]
      intro i member
      have bound := List.mem_range.mp member
      have within : i < text.length := by omega
      have byte : text[i] ≠ 0 := fun zero => nonzero (zero ▸ List.getElem_mem within)
      simp [holds.left i within, within, byte]
    rw [absent]
    rfl

theorem strcat_of_holds (holds : block.Holds (text ++ [0])) (nonzero : 0 ∉ text) {more : List UInt8}
    {next : Block UInt8} (appended : block.strcat more = some next) :
    next.Holds (text ++ more ++ [0]) ∧ next.requested = block.requested := by
  rw [Block.strcat, strlen_of_holds holds nonzero] at appended
  split at appended
  · cases appended
    rw [List.append_assoc]
    exact ⟨holds.left.write_end _, rfl⟩
  · cases appended

theorem hexByte_nonzero (byte : UInt8) : 0 ∉ hexByte byte := by
  have digit : ∀ n : UInt8, (if n < 10 then 48 + n else 87 + n) = 0 → 16 ≤ n.toNat := by
    intro n zero
    have sum := congrArg UInt8.toNat zero
    have size := n.toNat_lt
    split at sum
    · rw [UInt8.toNat_add] at sum
      simp only [UInt8.reduceToNat] at sum
      omega
    · rw [UInt8.toNat_add] at sum
      simp only [UInt8.reduceToNat] at sum
      omega
  have size := byte.toNat_lt
  intro member
  simp only [hexByte, List.mem_cons, List.not_mem_nil, or_false] at member
  rcases member with high | low
  · have large := digit _ high.symm
    rw [UInt8.toNat_div] at large
    simp only [UInt8.reduceToNat] at large
    omega
  · have large := digit _ low.symm
    rw [UInt8.toNat_mod] at large
    simp only [UInt8.reduceToNat] at large
    omega

theorem hex_stuck (bytes : List UInt8) :
    bytes.foldl (fun hex byte => hex.bind fun hex => hex.strcat (hexByte byte)) (none : Option (Block UInt8)) =
      none := by
  induction bytes with
  | nil => rfl
  | cons byte bytes ih => exact ih

theorem hex_appended (bytes : List UInt8) (holds : block.Holds (text ++ [0])) (nonzero : 0 ∉ text)
    {next : Block UInt8}
    (appended : bytes.foldl (fun hex byte => hex.bind fun hex => hex.strcat (hexByte byte)) (some block) =
      some next) :
    next.Holds (text ++ bytes.flatMap hexByte ++ [0]) ∧ 0 ∉ text ++ bytes.flatMap hexByte ∧
      next.requested = block.requested := by
  induction bytes generalizing block text with
  | nil =>
    cases appended
    simpa using ⟨holds, nonzero⟩
  | cons byte bytes ih =>
    rw [List.foldl_cons, Option.bind_some] at appended
    cases here : block.strcat (hexByte byte) with
    | none =>
      rw [here, hex_stuck] at appended
      cases appended
    | some later =>
      rw [here] at appended
      obtain ⟨kept, size⟩ := strcat_of_holds holds nonzero here
      have clean : 0 ∉ text ++ hexByte byte := by
        simp [nonzero, hexByte_nonzero]
      obtain ⟨whole, free, same⟩ := ih kept clean appended
      rw [List.flatMap_cons, ← List.append_assoc]
      exact ⟨whole, free, same.trans size⟩

theorem holds_of_strlen {size : Nat} (found : block.strlen = some size) :
    ∃ text, text.length = size ∧ size < block.requested ∧ block.Holds (text ++ [0]) ∧ 0 ∉ text := by
  obtain ⟨first, zero⟩ := Option.filter_eq_some_iff.mp found
  obtain ⟨_, bound, before⟩ := List.find?_range_eq_some.mp first
  have cells : ∀ i < size, ∃ byte, block.cells i = some byte ∧ byte ≠ 0 := by
    intro i below
    have other := before i below
    cases here : block.cells i with
    | none => simp [here] at other
    | some byte => exact ⟨byte, rfl, by simpa [here] using other⟩
  refine ⟨(List.range size).map fun i => (block.cells i).getD 0, by simp, List.mem_range.mp bound, ?_, ?_⟩
  · intro i within
    rw [List.length_append, List.length_map, List.length_range] at within
    by_cases last : i = size
    · rw [last, List.getElem?_append_right (by simp)]
      simpa using zero
    · have below : i < size := by
        simp only [List.length_singleton] at within
        omega
      obtain ⟨byte, here, _⟩ := cells i below
      rw [List.getElem?_append_left (by simpa using below)]
      simp [below, here]
  · intro member
    obtain ⟨i, inside, zero⟩ := List.mem_map.mp member
    obtain ⟨byte, here, nonzero⟩ := cells i (List.mem_range.mp inside)
    rw [here] at zero
    exact nonzero zero

theorem hexDigits_length (bytes : List UInt8) : (bytes.flatMap hexByte).length = bytes.length * 2 := by
  induction bytes with
  | nil => rfl
  | cons byte bytes ih =>
    rw [List.flatMap_cons, List.length_append, ih, List.length_cons]
    simp only [hexByte, List.length_cons, List.length_nil]
    omega

theorem hex_fits (bytes : List UInt8) (terminated : Block.Terminated block text)
    (fits : text.length + bytes.length * 2 < block.requested) :
    ∃ next, bytes.foldl (fun hex byte => hex.bind fun hex => hex.strcat (hexByte byte)) (some block) = some next ∧
      Block.Terminated next (text ++ bytes.flatMap hexByte) := by
  induction bytes generalizing block text with
  | nil => exact ⟨block, rfl, by simpa using terminated⟩
  | cons byte bytes ih =>
    have two : (hexByte byte).length = 2 := rfl
    rw [List.length_cons] at fits
    obtain ⟨later, here, kept, size⟩ := terminated.strcat ⟨hexByte byte, hexByte_nonzero byte⟩ (by dsimp only; omega)
    obtain ⟨next, there, whole⟩ := ih kept (by rw [List.length_append, size]; dsimp only; omega)
    rw [List.foldl_cons, Option.bind_some, here, List.flatMap_cons, ← List.append_assoc]
    exact ⟨next, there, whole⟩

/-- `binary2hex` gives the digits exactly if the memory that it gets begins with a zero. Else the string that
lies there comes first, and the last digits are written behind the end of the block. -/
theorem binary2hex_eq (stale : Nat → UInt8) (bytes : Text) :
    (binary2hexBlock stale bytes).bind Block.string =
      if stale 0 = 0 then some (bytes.flatMap hexByte) else none := by
  unfold binary2hexBlock
  generalize initial : (⟨bytes.length * 2 + 1, fun i => some (stale i)⟩ : Block UInt8) = hex
  have size : hex.requested = bytes.length * 2 + 1 := by rw [← initial]
  have first : hex.cells 0 = some (stale 0) := by rw [← initial]
  split
  · next zero =>
    have terminated : Block.Terminated hex [] := by
      refine ⟨?_, nofun, by rw [size]; exact Nat.succ_pos _⟩
      intro i bound
      obtain rfl : i = 0 := by simpa using bound
      rw [first, zero]
      rfl
    obtain ⟨next, whole, kept⟩ := hex_fits bytes terminated (by rw [size, List.length_nil]; omega)
    rw [whole, Option.bind_some, kept.string]
    rfl
  · next nonzero =>
    cases whole : bytes.foldl (fun hex byte => hex.bind fun hex => hex.strcat (hexByte byte)) (some hex) with
    | none => rfl
    | some next =>
      rw [Option.bind_some, Block.string]
      suffices unended : next.strlen = none by rw [unended, Option.map_none]
      cases start : hex.strlen with
      | none =>
        cases bytes with
        | nil =>
          cases whole
          exact start
        | cons byte bytes =>
          rw [List.foldl_cons, Option.bind_some, Block.strcat, start, Option.map_none, hex_stuck] at whole
          cases whole
      | some offset =>
        obtain ⟨text, length, _, holds, clean⟩ := holds_of_strlen start
        obtain ⟨kept, free, same⟩ := hex_appended bytes holds clean whole
        have behind : 0 < text.length := by
          cases text with
          | nil =>
            have zero := holds 0 (by simp)
            rw [first] at zero
            exact absurd (Option.some.inj zero) nonzero
          | cons => simp
        rw [strlen_of_holds kept free, if_neg]
        rw [List.length_append, hexDigits_length, same, size]
        omega

end Hex

def digestName (head : Text) : Text := (head.dropWhile isSpace).takeWhile (!isSpace ·)

/-- What the message has to be for `to_hash` to look for a digest: the trigger, a blank, and at least three bytes
with a word among them. -/
def Commands (trigger content head : Text) : Prop :=
  content = trigger ++ 32 :: head ∧ 3 ≤ head.length ∧ digestName head ≠ []

/-- The command does no harm: an unknown name fits the array that the complaint is printed into, and behind a
known one there is something to hash and a block that begins with a zero. -/
def Harmless (digests : Digests) (stale : Nat → UInt8) (head : Text) : Prop :=
  match digests (digestName head) with
  | none => (digestName head).length ≤ 75
  | some _ => head ≠ digestName head ∧ stale 0 = 0

section Command
variable {digests : Digests} {trigger content head beyond : Text}

theorem sameFor_trigger (long : trigger.length ≤ content.length) :
    sameFor trigger.length content trigger = true ↔ content = trigger ++ content.drop trigger.length := by
  rw [sameFor, decide_eq_true_iff, List.take_append_of_le_length long, List.take_left]
  constructor
  · intro same
    conv_lhs => rw [← List.take_append_drop trigger.length content, same]
  · intro same
    rw [same, List.take_left]

theorem toHash_uncommanded (none : ∀ head, ¬Commands trigger content head) :
    toHash digests trigger content beyond = .ignored := by
  unfold toHash
  split
  · rfl
  next long =>
  split
  · rfl
  next same =>
  have split := (sameFor_trigger (by omega)).mp (not_not.mp same)
  cases rest : content.drop trigger.length with
  | nil => rfl
  | cons blank head =>
    dsimp only
    split
    · rfl
    next blank =>
    rw [rest, not_not.mp blank] at split
    have room : 3 ≤ head.length := by
      rw [split, List.length_append, List.length_cons] at long
      omega
    rw [if_pos]
    by_contra named
    exact none head ⟨split, room, named⟩

theorem toHash_commanded (commands : Commands trigger content head) :
    toHash digests trigger content beyond =
      let start := (digestName head).length + 1
      match digests (digestName head) with
      | none => .invalid (digestName head)
      | some digest =>
        .hashed (digest (if head.length < start then beyond else head.drop start)) (head.length < start) := by
  obtain ⟨rfl, room, named⟩ := commands
  have long : ¬(trigger ++ 32 :: head).length < trigger.length + 4 := by
    rw [List.length_append, List.length_cons]
    omega
  have same : sameFor trigger.length (trigger ++ 32 :: head) trigger = true :=
    (sameFor_trigger (by simp)).mpr (by rw [List.drop_left])
  unfold toHash toHash2
  rw [if_neg long, if_neg (not_not_intro same), List.drop_left]
  dsimp only
  rw [if_neg (not_not_intro rfl)]
  unfold digestName at named ⊢
  rw [if_neg named]
  cases digests ((head.dropWhile isSpace).takeWhile (!isSpace ·)) with
  | none => rfl
  | some digest => simp

theorem name_last_iff (head : Text) : head.length < (digestName head).length + 1 ↔ head = digestName head := by
  have sublist : (digestName head).Sublist head := (List.takeWhile_sublist _).trans (List.dropWhile_sublist _)
  constructor
  · intro short
    exact (sublist.eq_of_length_le (by omega)).symm
  · intro same
    have length := congrArg List.length same
    omega

theorem digestName_split {blanks name rest : Text} (blank : ∀ byte ∈ blanks, isSpace byte = true)
    (named : ∀ byte ∈ name, isSpace byte = false) (nonempty : name ≠ [])
    (ends : ∀ byte ∈ rest.head?, isSpace byte = true) : digestName (blanks ++ name ++ rest) = name := by
  have word : ∀ byte ∈ name, (!isSpace byte) = true := fun byte member => by simp [named byte member]
  have skipped : (blanks ++ name ++ rest).dropWhile isSpace = name ++ rest := by
    rw [List.append_assoc, List.dropWhile_append_of_pos blank]
    cases name with
    | nil => exact absurd rfl nonempty
    | cons first name => rw [List.cons_append, List.dropWhile_cons_of_neg (by simp [named first])]
  rw [digestName, skipped, List.takeWhile_append_of_pos word]
  cases rest with
  | nil => simp
  | cons byte rest =>
    have stops : isSpace byte = true := ends byte rfl
    rw [List.takeWhile_cons_of_neg (by simp [stops]), List.append_nil]

end Command

structure Asked (user : User) (w : World) (data : Json) (content : Text) : Prop where
  content : (Json.packMessage w.fresh Json.messageInit data).content = some content
  author : ∃ author, (Json.packMessage w.fresh Json.messageInit data).author = some author ∧
    author.id ≠ user.id ∧ author.bot ≠ 1

section Message
variable {digests : Digests} {trigger content : Text} {user : User} {w : World} {data : Json}

theorem hash_asked (asked : Asked user w data content) (going : content ≠ ascii "hcf") :
    hash digests trigger (some user) w .messageCreate data =
      let channelId := (Json.packMessage w.fresh Json.messageInit data).channelId
      match toHash digests trigger content w.beyond with
      | .ignored => some .quiet
      | .invalid hashFunction =>
        some ⟨false, some ⟨channelId, invalidText hashFunction⟩,
          if 75 < hashFunction.length then [.writeBehind ((invalidText hashFunction).length + 1) tmpSize] else []⟩
      | .hashed md overread =>
        if w.stale 0 = 0 then
          some ⟨false, some ⟨channelId, md.flatMap hexByte⟩, if overread then [.readBehind] else []⟩
        else none := by
  obtain ⟨author, decoded, other, human⟩ := asked.author
  rw [hash, if_neg (by decide)]
  simp only [asked.content, decoded, if_neg going, Option.bind_eq_bind, Option.bind_some, if_neg other,
    if_neg human]
  cases toHash digests trigger content w.beyond with
  | ignored => rfl
  | invalid hashFunction =>
    have size : (invalidText hashFunction).length = hashFunction.length + 24 := by
      simp only [invalidText, List.length_append]
      rw [show (ascii "invalid hash function (").length = 23 from rfl, show (ascii ")").length = 1 from rfl]
      omega
    have same : tmpSize < (invalidText hashFunction).length + 1 ↔ 75 < hashFunction.length := by
      rw [size, tmpSize]
      omega
    simp only [same]
  | hashed md overread =>
    simp only [binary2hex_eq]
    split <;> simp_all

theorem Commands.head_eq {head other : Text} (commands : Commands trigger content head)
    (again : Commands trigger content other) : head = other := by
  have same := List.append_cancel_left (commands.1.symm.trans again.1)
  exact (List.cons.inj same).2

theorem hash_harmless_iff (digests : Digests) (trigger : Text) (asked : Asked user w data content)
    (going : content ≠ ascii "hcf") :
    (∃ reply, hash digests trigger (some user) w .messageCreate data = some reply ∧ reply.mishaps = []) ↔
      ∀ head, Commands trigger content head → Harmless digests w.stale head := by
  rw [hash_asked asked going]
  by_cases command : ∃ head, Commands trigger content head
  case neg =>
    rw [toHash_uncommanded fun head commands => command ⟨head, commands⟩]
    exact iff_of_true ⟨_, rfl, rfl⟩ fun head commands => absurd ⟨head, commands⟩ command
  obtain ⟨head, commands⟩ := command
  have one : (∀ other, Commands trigger content other → Harmless digests w.stale other) ↔
      Harmless digests w.stale head :=
    ⟨fun all => all head commands, fun here other again => commands.head_eq again ▸ here⟩
  rw [one, toHash_commanded commands, Harmless]
  cases digests (digestName head) with
  | none =>
    dsimp only
    by_cases long : 75 < (digestName head).length
    · rw [if_pos long]
      refine iff_of_false ?_ (by omega)
      rintro ⟨reply, same, clean⟩
      cases same
      cases clean
    · rw [if_neg long]
      exact iff_of_true ⟨_, rfl, rfl⟩ (by omega)
  | some digest =>
    dsimp only
    by_cases zero : w.stale 0 = 0
    case neg =>
      rw [if_neg zero]
      exact iff_of_false (fun ⟨_, same, _⟩ => by cases same) fun both => zero both.2
    rw [if_pos zero, and_iff_left zero, Ne, ← name_last_iff]
    by_cases last : head.length < (digestName head).length + 1
    · simp [last]
    · simp [last]

/-- For every message of a user: the bot misuses no memory exactly if the message stops it, is no command, or is
a harmless one. -/
theorem hash_safe_iff (digests : Digests) (trigger : Text) (asked : Asked user w data content) :
    (∃ reply, hash digests trigger (some user) w .messageCreate data = some reply ∧ reply.mishaps = []) ↔
      content = ascii "hcf" ∨ ∀ head, Commands trigger content head → Harmless digests w.stale head := by
  by_cases stops : content = ascii "hcf"
  · refine iff_of_true ⟨⟨true, none, []⟩, ?_, rfl⟩ (.inl stops)
    rw [hash, if_neg (by decide)]
    simp only [asked.content, if_pos stops]
  · rw [or_iff_right stops]
    exact hash_harmless_iff digests trigger asked stops

/-- Whatever other digests there are: a command that names a digest is answered with the digest of the text behind
the name exactly if only one blank stands in front of the name, and if the memory for the answer begins with a zero. -/
theorem hash_answers_iff (digests : Digests) {blanks name text : Text} {separator : UInt8}
    (asked : Asked user w data content) (going : content ≠ ascii "hcf")
    (command : content = trigger ++ 32 :: (blanks ++ name ++ separator :: text))
    (long : 2 ≤ (blanks ++ name ++ text).length) (blank : ∀ byte ∈ blanks, isSpace byte = true)
    (named : ∀ byte ∈ name, isSpace byte = false) (nonempty : name ≠ []) (separates : isSpace separator = true) :
    (∀ digest : Text → Text, ∃ reply,
      hash (Function.update digests name (some digest)) trigger (some user) w .messageCreate data = some reply ∧
      reply.post = some ⟨(Json.packMessage w.fresh Json.messageInit data).channelId,
        (digest text).flatMap hexByte⟩) ↔
      blanks = [] ∧ w.stale 0 = 0 := by
  have found : digestName (blanks ++ name ++ separator :: text) = name :=
    digestName_split blank named nonempty (by simpa using separates)
  have commands : Commands trigger content (blanks ++ name ++ separator :: text) := by
    refine ⟨command, ?_, by rw [found]; exact nonempty⟩
    simp only [List.length_append, List.length_cons] at long ⊢
    omega
  have inside : ¬(blanks ++ name ++ separator :: text).length < name.length + 1 := by
    simp only [List.length_append, List.length_cons]
    omega
  simp only [hash_asked asked going, toHash_commanded commands, found, Function.update_self, if_neg inside]
  by_cases zero : w.stale 0 = 0
  case neg =>
    simp only [if_neg zero]
    refine iff_of_false (fun all => ?_) fun both => zero both.2
    obtain ⟨reply, same, _⟩ := all id
    cases same
  simp only [if_pos zero]
  rw [and_iff_left zero]
  constructor
  · intro all
    obtain ⟨reply, same, posted⟩ := all id
    cases same
    have digits := congrArg List.length (congrArg Post.content (Option.some.inj posted))
    simp only [id, hexDigits_length, List.length_drop, List.length_append, List.length_cons] at digits
    exact List.eq_nil_of_length_eq_zero (by omega)
  · rintro rfl digest
    refine ⟨_, rfl, ?_⟩
    rw [List.nil_append, List.drop_append, List.drop_of_length_le (Nat.le_succ _), List.nil_append,
      Nat.add_sub_cancel_left]
    rfl

theorem asked_userMessage (content : Text) : Asked botUser .calm (userMessage content) content :=
  ⟨rfl, _, rfl, by decide, by decide⟩

-- The name of a digest that does not fit the array.
def longCommand : Text := ascii "!hash " ++ List.replicate 76 97

theorem hash_safe_iff_long :
    ¬∃ reply, hash (fun _ => none) (ascii "!hash") (some botUser) .calm .messageCreate (userMessage longCommand) =
      some reply ∧ reply.mishaps = [] := by
  intro safe
  have iff := hash_safe_iff (fun _ => none) (ascii "!hash") (asked_userMessage longCommand)
  obtain stops | harmless := iff.mp safe
  · exact absurd stops (by decide +kernel)
  · have short : (digestName (List.replicate 76 97)).length ≤ 75 :=
      harmless (List.replicate 76 97) ⟨rfl, by decide +kernel, by decide +kernel⟩
    exact absurd short (by decide +kernel)

-- A table that knows another digest.
def otherDigest : Digests := fun name => if name = ascii "sha1" then some id else none

theorem hash_answers_iff_blank :
    ¬∀ digest : Text → Text, ∃ reply,
      hash (Function.update otherDigest (ascii "md5") (some digest)) (ascii "!hash") (some botUser) .calm
        .messageCreate (userMessage (ascii "!hash  md5 abc")) = some reply ∧
      reply.post = some ⟨7, (digest (ascii "abc")).flatMap hexByte⟩ := by
  intro all
  have iff := hash_answers_iff otherDigest (asked_userMessage (ascii "!hash  md5 abc")) (by decide +kernel)
    (show _ = ascii "!hash" ++ 32 :: ([32] ++ ascii "md5" ++ 32 :: ascii "abc") by decide +kernel)
    (by decide +kernel) (by decide +kernel) (by decide +kernel) (by decide +kernel) (by decide)
  exact absurd (iff.mp all).1 (by decide)

end Message

end Libdiscord.Bot
