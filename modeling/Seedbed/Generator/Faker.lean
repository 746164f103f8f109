import Seedbed.Generator.Primitive
import Seedbed.Generator.Words.People
import Seedbed.Generator.Words.Companies
import Seedbed.Generator.Words.Places
import Seedbed.Generator.Words.Contact
import Seedbed.Generator.Words.Finance
import Seedbed.Generator.Words.Lorem

/-!
# Generators of lifelike text

Names, companies, addresses and filler text are put together from word lists. All of them draw
numbers of 32 bits; the order of the draws is the order in which the parts are listed here.
-/

namespace Seedbed.Faker

open Seedbed.Random
open Words

/-- One word of a list. -/
def pick (list : Array String) : Draw String := do
  return list.getD (← Draw.below .narrow list.size) ""

/-- One word of each list, with spaces between them. -/
def phrase (lists : List (Array String)) : Draw String := do
  return String.intercalate " " (← lists.mapM pick)

/-- A length, drawn from the range that holds only it. -/
def lengthDraw (n : Nat) : Draw Nat :=
  Draw.between .narrow n n

/-- A digit from `low` on. -/
def digitFrom (low : Nat) : Draw Char := do
  return Nat.digitChar (← Draw.between .narrow low 9)

/-- A format with its marks replaced by digits. -/
def fillDigits (format : String) : Draw String := do
  let cs ← format.toList.mapM fun c =>
    if c = '#' then digitFrom 0
    else if c = '^' then digitFrom 1
    else return c
  return String.ofList cs

/-- A text in lower case; the word lists are ASCII. -/
def lower (text : String) : String :=
  String.ofList (text.toList.map Char.toLower)

/-- A number below 256. -/
def byte : Draw Nat := do
  return (← Draw.bits32) % 256

/-- The number of words or characters that a request asks for. -/
def amountOf (request : Request) (default : Nat) : Nat :=
  max 1 (min (request.argumentOr (Number.readNatural 64) 0 default) Primitive.maxLength)

/-- A company named after one person or two; both names are always drawn. -/
def companyName : Draw String := do
  let pattern ← Draw.below .narrow 2
  let first ← pick lastNames
  let second ← pick lastNames
  let ending ← pick companySuffixes
  return if pattern = 0 then first ++ " " ++ ending
    else first ++ " and " ++ second ++ " " ++ ending

/-- An address at a domain that is reserved for examples. -/
def email : Draw String := do
  let name ← pick firstNames
  let domain ← pick #["com", "net", "org"]
  return lower name ++ "@example." ++ domain

/-- A first name, often with a word or a number. -/
def userName : Draw String := do
  let kind ← byte
  if kind = 0 then return lower (← pick firstNames)
  else if kind ≤ 2 then
    let word ← pick loremWords
    let name ← pick firstNames
    return word ++ "." ++ lower name
  else if kind ≤ 4 then
    let name ← pick firstNames
    let number ← byte
    return lower name ++ toString number
  else
    let name ← pick firstNames
    let word ← pick loremWords
    return lower name ++ "_" ++ word

def ipv4 : Draw String := do
  let parts ← Draw.times 4 byte
  return String.intercalate "." (parts.map toString)

def password (length : Nat) : Draw String := do
  let n ← lengthDraw length
  return String.join (← Draw.times n (pick passwordCharacters))

def city : Draw String := do
  let kind ← Draw.between .narrow 0 4
  if kind = 0 then phrase [cityPrefixes, firstNames, lastNames, citySuffixes]
  else if kind = 1 then phrase [firstNames, citySuffixes]
  else phrase [lastNames, citySuffixes]

def streetAddress : Draw String := do
  let number ← fillDigits (← pick buildingFormats)
  let fromFirstNames := 2 ^ 31 ≤ (← Draw.bits32)
  let street ← phrase [if fromFirstNames then firstNames else lastNames, streetSuffixes]
  return number ++ " " ++ street

def words (count : Nat) : Draw String := do
  return String.intercalate " " (← Draw.times count (pick loremWords))

def sentence (count : Nat) : Draw String := do
  return (← words count) ++ "."

/-- A sentence of four to nine words. -/
def freeSentence : Draw String := do
  sentence (← Draw.between .narrow 4 9)

def paragraph (count : Nat) : Draw String := do
  let n ← lengthDraw count
  return String.intercalate "\n" (← Draw.times n freeSentence)

/-- A generator that takes no arguments. -/
def simple (id : String) (draw : Draw String) : Generator :=
  .text id fun _ => draw

/-- A generator whose argument is a number of words or characters. -/
def sized (id : String) (default : Nat) (draw : Nat → Draw String) : Generator :=
  .text id fun request => draw (amountOf request default)

/-- The generators of lifelike text. -/
def generators : List Generator :=
  [ simple "company.name" companyName,
    simple "company.catchPhrase" (phrase [sloganHeads, sloganMiddles, sloganTails]),
    simple "company.buzzPhrase" (phrase [pitchVerbs, pitchAdjectives, pitchNouns]),
    simple "company.industry" (pick industries),
    simple "company.suffix" (pick companySuffixes),
    simple "person.fullName" (phrase [firstNames, lastNames]),
    simple "person.firstName" (pick firstNames),
    simple "person.lastName" (pick lastNames),
    simple "person.prefix" (pick titles),
    simple "person.suffix" (pick nameSuffixes),
    simple "person.jobTitle" (phrase [jobSeniorities, jobFields, jobPositions]),
    simple "person.jobArea" (pick jobFields),
    simple "person.jobType" (pick jobPositions),
    simple "internet.email" email,
    simple "internet.userName" userName,
    simple "internet.domainSuffix" (pick domainSuffixes),
    simple "internet.ipv4" ipv4,
    sized "internet.password" 12 password,
    simple "phone.number" (do fillDigits (← pick phoneFormats)),
    simple "location.city" city,
    simple "location.state" (pick states),
    simple "location.stateAbbr" (pick stateCodes),
    simple "location.streetAddress" streetAddress,
    simple "location.zipCode" (do fillDigits (← pick zipFormats)),
    simple "location.country" (pick countries),
    simple "location.countryCode" (pick countryCodes),
    simple "lorem.word" (pick loremWords),
    sized "lorem.words" 3 fun count => do words (← lengthDraw count),
    sized "lorem.sentence" 8 fun count => do sentence (← lengthDraw count),
    sized "lorem.paragraph" 3 paragraph,
    simple "finance.currencyCode" (pick currencyCodes),
    simple "finance.currencyName" (pick currencyNames) ]

end Seedbed.Faker
