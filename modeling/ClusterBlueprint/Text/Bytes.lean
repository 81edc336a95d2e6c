/-!
# Text — bytes, and cuts counted in them

Digests and secrets are taken over the UTF-8 bytes of a text, and providers
limit names by the number of their bytes. A name is shortened by keeping a
given number of bytes from its start, and such a cut may fall inside a
character: `takeBytes?` is defined on whole characters only, and answers
`none` there. On ASCII text every cut falls between characters.
-/

namespace ClusterBlueprint

namespace Text

/-- The bytes of a text. -/
def bytes (s : String) : List UInt8 := s.toList.flatMap String.utf8EncodeChar

/-- The characters that fill exactly the first `n` bytes, or `none` when
the text has fewer bytes or the `n`-th byte is not the last one of its
character. -/
def takeBytes? : Nat → List Char → Option (List Char)
  | 0, _ => some []
  | _ + 1, [] => none
  | n + 1, c :: cs =>
    if c.utf8Size ≤ n + 1 then (takeBytes? (n + 1 - c.utf8Size) cs).map (c :: ·) else none

/-- What a cut keeps is an initial piece of the text. -/
theorem prefix_of_takeBytes? {n : Nat} {cs kept : List Char}
    (h : takeBytes? n cs = some kept) : kept <+: cs := by
  fun_induction takeBytes? n cs generalizing kept with
  | case1 => simp_all
  | case2 => simp at h
  | case3 n c cs _ ih =>
    obtain ⟨u, hu, rfl⟩ := Option.map_eq_some_iff.1 h
    exact (List.cons_prefix_cons).2 ⟨rfl, ih hu⟩
  | case4 => simp at h

/-- On a text of one-byte characters the cut is `List.take`. -/
theorem takeBytes?_of_ascii {n : Nat} {cs : List Char}
    (hascii : ∀ c ∈ cs, c.utf8Size = 1) (hn : n ≤ cs.length) :
    takeBytes? n cs = some (cs.take n) := by
  induction cs generalizing n with
  | nil => simp_all [takeBytes?]
  | cons c cs ih =>
    cases n with
    | zero => simp [takeBytes?]
    | succ n =>
      have hc : c.utf8Size = 1 := hascii c (by simp)
      have := @ih n (fun d hd => hascii d (by simp [hd])) (by simpa using hn)
      simp [takeBytes?, hc, this]

end Text

end ClusterBlueprint
