import DecodeBench.Transformer.Device

/-! The processor as a device: it has no matrix product for some of the formats. -/

namespace DecodeBench.Transformer

def processor : Device where
  completes format _
    | .embed | .collect => true
    | .project _ | .attend _ | .predict =>
      match format with
      | .binary32 | .binary64 | .binary16 => true
      | .bfloat16 | .word8 | .word32 | .int64 => false

end DecodeBench.Transformer
