import TagGovernance.Resource.Catalog

/-!
# The kinds of AWS resources
-/

namespace TagGovernance.Aws

def tagging : List Operation := [.tag, .removeTag, .markForOp, .delete]

def firewall : ResourceKind where
  typeName := "firewall"
  service := "network-firewall"
  enumOp := "list_firewalls"
  enumKey := "Firewalls"
  detailOp := some "describe_firewall"
  idPath := "FirewallName"
  arnPath := some "FirewallArn"
  cfnType := some "AWS::NetworkFirewall::Firewall"
  operations := tagging ++ [.updateDeleteProtection]
  augment := .firewall
  annotations := [.logging]
  configSource := true

def accessPoint : ResourceKind where
  typeName := "s3-access-point"
  service := "s3control"
  enumOp := "list_access_points"
  enumKey := "AccessPointList"
  detailOp := some "get_access_point"
  arnPath := some "AccessPointArn"
  cfnType := some "AWS::S3::AccessPoint"
  tagShape := none
  operations := [.delete]
  augment := .accessPoint
  annotations := [.policy]

def multiRegionAccessPoint : ResourceKind where
  typeName := "s3-access-point-multi"
  service := "s3control"
  enumOp := "list_multi_region_access_points"
  enumKey := "AccessPoints"
  cfnType := some "AWS::S3::MultiRegionAccessPoint"
  tagShape := none

def storageLens : ResourceKind where
  typeName := "s3-storage-lens"
  service := "s3control"
  enumOp := "list_storage_lens_configurations"
  enumKey := "StorageLensConfigurationList"
  detailOp := some "get_storage_lens_configuration"
  idPath := "StorageLensConfiguration.Id"
  arnPath := some "StorageLensConfiguration.StorageLensArn"
  cfnType := some "AWS::S3::StorageLens"
  operations := [.tag, .removeTag, .delete]
  augment := .storageLens

def bedrockModel : ResourceKind where
  typeName := "bedrock-custom-model"
  service := "bedrock"
  enumOp := "list_custom_models"
  enumKey := "modelSummaries"
  detailOp := some "get_custom_model"
  idPath := "modelName"
  arnPath := some "modelArn"
  tagShape := some .camel
  operations := [.tag, .removeTag, .delete]

def knowledgeBase : ResourceKind where
  typeName := "bedrock-knowledge-base"
  service := "bedrock-agent"
  enumOp := "list_knowledge_bases"
  enumKey := "knowledgeBaseSummaries"
  detailOp := some "get_knowledge_base"
  idPath := "knowledgeBaseId"
  arnPath := some "knowledgeBaseArn"
  tagShape := some .map
  operations := [.tag, .removeTag, .delete]
  augment := .hoist "knowledgeBase"

def globalAccelerator : ResourceKind where
  typeName := "globalaccelerator"
  service := "globalaccelerator"
  enumOp := "list_accelerators"
  enumKey := "Accelerators"
  arnPath := some "AcceleratorArn"
  cfnType := some "AWS::GlobalAccelerator::Accelerator"
  operations := tagging

def memorydb : ResourceKind where
  typeName := "memorydb"
  service := "memorydb"
  enumOp := "describe_clusters"
  enumKey := "Clusters"
  arnPath := some "ARN"
  cfnType := some "AWS::MemoryDB::Cluster"
  operations := tagging

def memorydbSnapshot : ResourceKind where
  typeName := "memorydb-snapshot"
  service := "memorydb"
  enumOp := "describe_snapshots"
  enumKey := "Snapshots"
  arnPath := some "ARN"
  operations := tagging

def memorydbAcl : ResourceKind where
  typeName := "memorydb-acl"
  service := "memorydb"
  enumOp := "describe_acls"
  enumKey := "ACLs"
  arnPath := some "ARN"
  cfnType := some "AWS::MemoryDB::ACL"
  operations := tagging
  deleteAfter := ["memorydb"]

def memorydbUser : ResourceKind where
  typeName := "memorydb-user"
  service := "memorydb"
  enumOp := "describe_users"
  enumKey := "Users"
  arnPath := some "ARN"
  cfnType := some "AWS::MemoryDB::User"
  operations := tagging
  deleteAfter := ["memorydb-acl"]

def kinds : List ResourceKind :=
  [firewall, accessPoint, multiRegionAccessPoint, storageLens, bedrockModel, knowledgeBase,
   globalAccelerator, memorydb, memorydbSnapshot, memorydbAcl, memorydbUser]

def catalog : Except CatalogError Catalog := Catalog.ofKinds kinds

end TagGovernance.Aws
