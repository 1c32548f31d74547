/-!
The order of texts. Texts are ordered by their UTF-8 bytes, the first difference deciding and a
proper beginning coming first.
-/
namespace Scriptlet.Text

/-- The UTF-8 encoding of a text. -/
def bytes (s : String) : List UInt8 :=
  s.toList.flatMap String.utf8EncodeChar

def order (a b : String) : Ordering :=
  compare (bytes a) (bytes b)

@[simp] theorem bytes_empty : bytes "" = [] := by
  simp [bytes]

@[simp] theorem bytes_append (a b : String) : bytes (a ++ b) = bytes a ++ bytes b := by
  simp [bytes]

@[simp] theorem order_self (a : String) : order a a = .eq :=
  Std.ReflOrd.compare_self

end Scriptlet.Text
