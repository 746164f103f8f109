import Seedbed.Generator.Words.Basic

/-!
# Contact

Domains, the characters of passwords, and the formats of phone numbers. In a format, a hash stands
for a digit and a circumflex for a digit other than zero.
-/

namespace Seedbed.Words

/-- The ends of domains. -/
def domainSuffixes : Array String :=
  wordsOf [
    "com|biz|info|name|net|org|io|co"]

/-- The characters of passwords. -/
def passwordCharacters : Array String :=
  wordsOf [
    "0|1|2|3|4|5|6|7|8|9|A|B|C|D|E|F|G|H|I|J|K|L|M|N|O|P|Q|R|S|T|U|V|W|X|Y|Z|a|b|c|d|e|f|g|h|i|j",
    "k|l|m|n|o|p|q|r|s|t|u|v|w|x|y|z"]

/-- The formats of phone numbers. -/
def phoneFormats : Array String :=
  wordsOf [
    "(^##) ###-#### x###|(^##) ###-#### x####|(^##) ###-#### x#####|(^##) ###-####",
    "1-^##-###-#### x###|1-^##-###-#### x####|1-^##-###-#### x#####|1-^##-###-####",
    "^##-###-#### x###|^##-###-#### x####|^##-###-#### x#####|^##-###-####|^##.###.#### x###",
    "^##.###.#### x####|^##.###.#### x#####|^##.###.####"]

end Seedbed.Words
