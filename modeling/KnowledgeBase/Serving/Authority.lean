import KnowledgeBase.Serving.Semantics

/-!
# Semantic authorities

Where the filter blob and the context blob of an accepted document come from: the descriptor of a request, after its
validators, or a member that a provider mapper has parsed. Of a raw member the fields are those that the blobs read; a
number is the text that `str` makes of it.
-/

namespace KnowledgeBase

variable (casefold : Text → Text)

/-- The two blobs of a document. -/
structure SemanticAuthority where
  filter : FilterMeta
  context : ContextMeta

/-- The values of the blobs: valid filter values, and a context that repeats them. -/
def buildAuthority (realm type channel sourceName : Text) (isActive : Int) (title : FilterMeta → Text)
    (tags : List Text) : Option SemanticAuthority :=
  (filterMeta casefold realm type channel sourceName isActive).bind fun filter =>
    let context : ContextMeta :=
      ⟨filter.realm, filter.type, filter.channel, filter.sourceName, title filter, tags⟩
    if context.isValid then some ⟨filter, context⟩ else none

/-! ### the descriptor of a request -/

/-- `GenericSemanticSource`, with the title of the descriptor. -/
structure GenericDescriptor where
  realm : Text
  type : Text
  channel : Text
  sourceName : Text
  title : Option Text
  contextTags : List Text

/-- `normalize_context_tags`, behind the lengths of the field. -/
def normalizeContextTags (tags : List Text) : Option (List Text) :=
  if tags.length ≤ 256 ∧ tags.all (fun t => decide (1 ≤ t.length ∧ t.length ≤ 512)) = true ∧
      (tags.map stripText).all (fun t => !t.isEmpty) = true then
    some (tags.map stripText)
  else none

/-- The descriptor as the request model admits it; `_semantic_text` is the check of a filter field. -/
def admitDescriptor (d : GenericDescriptor) : Option GenericDescriptor := do
  let realm ← filterField casefold 256 d.realm
  let type ← filterField casefold 256 d.type
  let channel ← filterField casefold 256 d.channel
  let sourceName ← filterField casefold 512 d.sourceName
  let tags ← normalizeContextTags d.contextTags
  return ⟨realm, type, channel, sourceName, d.title, tags⟩

/-- `generic_semantic_authority`. -/
def genericSemanticAuthority (d : GenericDescriptor) : Option SemanticAuthority :=
  buildAuthority casefold d.realm d.type d.channel d.sourceName 1
    (fun filter =>
      let title := stripText (d.title.getD [])
      if title.isEmpty then filter.sourceName else title)
    d.contextTags

/-! ### the provider mappers -/

/-- A text that is not empty. -/
def truthy (value : Option Text) : Option Text := value.filter fun t => !t.isEmpty

/-- `_optional_text`. -/
def optionalText (value : Option Text) : Option Text := truthy (value.map stripText)

/-- `_required_text`. -/
def requiredText (value : Option Text) : Option Text :=
  (optionalText value).filter fun t => casefold t != "unknown".toList

/-- A tag with a label, if there is a value. -/
def labelled (label : String) (value : Option Text) : List Text :=
  (value.map fun v => label.toList ++ ": ".toList ++ v).toList

structure ChinaTaxRawMember where
  label : Option Text
  column : Option Text
  title : Option Text
  pubName : Option Text
  pubDate : Option Text
  cwrq : Option Text
  aging : Option Text

/-- `parse_chinatax_member`. -/
def parseChinatax (raw : ChinaTaxRawMember) : Option SemanticAuthority := do
  let type ← requiredText casefold raw.label
  let channel ← requiredText casefold raw.column
  let status := optionalText raw.aging
  buildAuthority casefold "tax_china".toList type channel "chinatax.gov.cn".toList
    (if status = some "全文有效".toList then 1 else 0)
    (fun _ => (optionalText raw.title).getD "无标题文件".toList)
    (labelled "发布单位" (optionalText raw.pubName) ++ labelled "成文日期" (optionalText raw.cwrq) ++
      labelled "发布日期" (optionalText raw.pubDate) ++ labelled "文件时效" status)

/-- A number: its text, and whether it is above zero. -/
structure ProviderNumber where
  text : Text
  positive : Bool

structure DomainRawMember where
  status : Option Text
  saleMode : Option Text
  channel : Option Text
  propertyType : Option Text
  headline : Option Text
  suburb : Option Text
  state : Option Text
  postcode : Option Text
  bedrooms : Option ProviderNumber
  bathrooms : Option ProviderNumber
  carspaces : Option ProviderNumber
  advertiserId : Text

def agencyName (advertiserId : Text) : Text :=
  if advertiserId = "12106".toList then "McGrath Box Hill".toList
  else if advertiserId = "37576".toList then "Buxton Balwyn Canterbury".toList
  else "Domain Generic Agency (".toList ++ advertiserId ++ ")".toList

/-- A counted tag, if there is a number. -/
def counted (value : Option ProviderNumber) (suffix : String) : List Text :=
  (value.map fun n => n.text ++ ' ' :: suffix.toList).toList

/-- `parse_domain_member`. -/
def parseDomain (raw : DomainRawMember) : Option SemanticAuthority := do
  let _status ← requiredText casefold raw.status
  let saleMode ← requiredText casefold raw.saleMode
  let _channel ← requiredText casefold raw.channel
  let channel ← requiredText casefold raw.propertyType
  buildAuthority casefold "realestate_on_market".toList saleMode channel (agencyName raw.advertiserId) 1
    (fun _ => (truthy raw.headline).getD "No Title Available".toList)
    ((truthy raw.suburb).toList ++ (truthy raw.state).toList ++ (truthy raw.postcode).toList ++
      counted raw.bedrooms "bedrooms" ++ counted raw.bathrooms "bathrooms" ++
      counted (raw.carspaces.filter ProviderNumber.positive) "carspaces" ++ [channel])

structure RealestateParsedMember where
  channel : Option Text
  agencyName : Option Text
  statusType : Option Text
  propertyTitle : Option Text
  propertyPrice : Option Text
  bed : Option Text
  bath : Option Text
  car : Option Text
  landSize : Option Text
  landUnit : Option Text
  propertyType : Option Text
  suburb : Option Text
  street : Option Text
  postcode : Option Text
  state : Option Text

/-- A listing that is sold or withdrawn. -/
def isInactive (raw : RealestateParsedMember) : Bool :=
  casefold (raw.channel.getD []) == "sold".toList ||
    ["sold", "withdrawn"].any fun marker => Text.hasSub (casefold (raw.statusType.getD [])) marker.toList

/-- `parse_realestate_member`, from the parsed member on. -/
def parseRealestate (raw : RealestateParsedMember) : Option SemanticAuthority := do
  let _channel ← requiredText casefold raw.channel
  let _agency ← requiredText casefold raw.agencyName
  let address := (truthy raw.suburb).toList ++ (truthy raw.street).toList ++ (truthy raw.postcode).toList ++
    (truthy raw.state).toList
  buildAuthority casefold "realestate".toList "listing".toList (raw.channel.getD []) (raw.agencyName.getD [])
    (if isInactive casefold raw then 0 else 1)
    (fun _ => (truthy raw.propertyTitle).getD "Untitled Property".toList)
    (labelled "Price" (truthy raw.propertyPrice) ++ labelled "Bedroom" raw.bed ++ labelled "Bathroom" raw.bath ++
      labelled "Car" raw.car ++
      (raw.landSize.map fun size => stripText ("Land: ".toList ++ size ++ ' ' :: raw.landUnit.getD [])).toList ++
      labelled "Property Type" (truthy raw.propertyType) ++
      labelled "Address" (if address.isEmpty then none else some (" | ".toList.intercalate address)))

/-- What the validators of a request or a provider mapper admit. -/
inductive AdmittedAuthority : SemanticAuthority → Prop
  | request {raw d : GenericDescriptor} {a : SemanticAuthority} (hd : admitDescriptor casefold raw = some d)
      (h : genericSemanticAuthority casefold d = some a) : AdmittedAuthority a
  | chinatax {raw : ChinaTaxRawMember} {a : SemanticAuthority} (h : parseChinatax casefold raw = some a) :
      AdmittedAuthority a
  | domain {raw : DomainRawMember} {a : SemanticAuthority} (h : parseDomain casefold raw = some a) :
      AdmittedAuthority a
  | realestate {raw : RealestateParsedMember} {a : SemanticAuthority} (h : parseRealestate casefold raw = some a) :
      AdmittedAuthority a

end KnowledgeBase
