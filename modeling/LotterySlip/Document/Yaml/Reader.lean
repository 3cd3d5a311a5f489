import LotterySlip.Document.Yaml.Frame

/-! Reading catalog files: sequences and mappings by indentation or in brackets. -/
namespace LotterySlip.Yaml

def read? (cs : List Char) : Option Document := do
  documentOf? (← Token.ofCells? (← cells? cs))

end LotterySlip.Yaml
